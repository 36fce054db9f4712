import ScriptLint.Config.Value
import ScriptLint.Linter

/-!
The options of the rules as a configuration gives them.
-/
namespace ScriptLint

def OneCharWords.keyword : OneCharWords → String
  | always => "always"
  | never => "never"
  | last => "last"

def OneCharWords.ofKeyword? : String → Option OneCharWords
  | "always" => some .always
  | "never" => some .never
  | "last" => some .last
  | _ => none

namespace ComplexityOptions

def put (format : ConfigFormat) (o : ComplexityOptions) (field : String) (v : Value) :
    Option ComplexityOptions :=
  match field with
  | "max_height" => v.count?.map fun n => { o with maxHeight := n }
  | "max_terms" => v.count?.map fun n => { o with maxTerms := n }
  | "binary_operators" =>
    (v.list? (Value.keyword? format ComparisonOperator.ofSign?)).map fun operators =>
      { o with binaryOperators := operators }
  | "include_ternary" => v.bool?.map fun b => { o with includeTernary := b }
  | _ => none

def ofValue? (format : ConfigFormat) : Value → Option ComplexityOptions :=
  Value.record? format ["max_height", "max_terms", "binary_operators", "include_ternary"]
    (put format) {}

end ComplexityOptions

namespace Collation

def put (c : Collation) (field : String) (v : Value) : Option Collation :=
  match field with
  | "ignore_case" => v.bool?.map fun b => { c with ignoreCase := b }
  | "natural" => v.bool?.map fun b => { c with natural := b }
  | _ => none

def ofValue? (format : ConfigFormat) : Value → Option Collation :=
  Value.record? format ["ignore_case", "natural"] put {}

end Collation

namespace ImportMembersOptions

def put (o : ImportMembersOptions) (field : String) (v : Value) : Option ImportMembersOptions :=
  match field with
  | "sort_specifiers_with_comments" => v.bool?.map fun b => { o with sortWithComments := b }
  | field => (o.collation.put field v).map fun c => { o with collation := c }

def ofValue? (format : ConfigFormat) : Value → Option ImportMembersOptions :=
  Value.record? format ["ignore_case", "natural", "sort_specifiers_with_comments"] put {}

end ImportMembersOptions

namespace ImportPathsOptions

def put (o : ImportPathsOptions) (field : String) (v : Value) : Option ImportPathsOptions :=
  match field with
  | "allow_separate_groups" => v.bool?.map fun b => { o with allowSeparateGroups := b }
  | "sort_side_effects_first" => v.bool?.map fun b => { o with sideEffectsFirst := b }
  | "sort_type_imports_first" => (v.optional? Value.bool?).map fun b =>
    { o with typeImportsFirst := b }
  | "groups" => (v.list? Value.text?).map fun groups => { o with groups }
  | field => (o.collation.put field v).map fun c => { o with collation := c }

def ofValue? (format : ConfigFormat) : Value → Option ImportPathsOptions :=
  Value.record? format ["ignore_case", "natural", "allow_separate_groups",
    "sort_side_effects_first", "sort_type_imports_first", "groups"] put {}

end ImportPathsOptions

namespace CamelCaseOptions

def put (format : ConfigFormat) (o : CamelCaseOptions) (field : String) (v : Value) :
    Option CamelCaseOptions :=
  match field with
  | "ignore_properties" => v.bool?.map fun b => { o with ignoreProperties := b }
  | "ignore_imports" => v.bool?.map fun b => { o with ignoreImports := b }
  | "ignored_identifiers" => (v.list? Value.text?).map fun names =>
    { o with ignoredIdentifiers := names }
  | "allow_one_char_words" => (v.keyword? format OneCharWords.ofKeyword?).map fun words =>
    { o with oneCharWords := words }
  | "ignore_single_words" => v.bool?.map fun b => { o with ignoreSingleWords := b }
  | "ignore_single_words_in" =>
    (v.list? (Value.keyword? format SingleWordPosition.ofKeyword?)).map fun positions =>
      { o with ignoreSingleWordsIn := positions }
  | _ => none

def ofValue? (format : ConfigFormat) : Value → Option CamelCaseOptions :=
  Value.record? format ["ignore_properties", "ignore_imports", "ignored_identifiers",
    "allow_one_char_words", "ignore_single_words", "ignore_single_words_in"] (put format) {}

end CamelCaseOptions

namespace RuleOptions

def put (format : ConfigFormat) (o : RuleOptions) (name : String) (v : Value) :
    Option RuleOptions :=
  match Lint.ofName? name with
  | some .logicalExpressionComplexity => (ComplexityOptions.ofValue? format v).map fun options =>
    { o with complexity := options }
  | some .orderedDestructuring => (Collation.ofValue? format v).map fun options =>
    { o with destructuring := options }
  | some .orderedImportMembers => (ImportMembersOptions.ofValue? format v).map fun options =>
    { o with importMembers := options }
  | some .orderedImportsByPath => (ImportPathsOptions.ofValue? format v).map fun options =>
    { o with importPaths := options }
  | some .strictCamelCase => (CamelCaseOptions.ofValue? format v).map fun options =>
    { o with camelCase := options }
  | none => none

def namesOnce : Value → Bool
  | .table entries =>
    (firstRepeated? [] (entries.map fun entry => Lint.canonical (String.ofList entry.1))).isNone
  | _ => true

def ofValue? (format : ConfigFormat) (v : Value) : Option RuleOptions :=
  if namesOnce v then
    v.record? format ["strict_camel_case", "ordered_imports_by_path", "ordered_import_members",
      "ordered_destructuring", "logical_expression_complexity"] (put format) {}
  else none

end RuleOptions

def Level.ofValue? : ConfigFormat → Value → Option Level
  | .toml, v => v.text?.bind fun t => Level.ofKeyword? (String.ofList t)
  | .json, v => v.keyword? .json Level.ofKeyword?

def Level.ofEntries? (format : ConfigFormat) (entries : List (Text × Value)) :
    Option (List (String × Level)) :=
  entries.mapM fun (name, v) => (Level.ofValue? format v).map fun level =>
    (String.ofList name, level)

end ScriptLint
