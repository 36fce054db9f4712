import ScriptLint.Template

/-!
The lints and the messages that they report.
-/
namespace ScriptLint

inductive Lint where
  | logicalExpressionComplexity
  | orderedDestructuring
  | orderedImportMembers
  | orderedImportsByPath
  | strictCamelCase
  deriving DecidableEq, Repr

inductive Category where
  | style
  | naming
  | complexity
  deriving DecidableEq, Repr

def Category.label : Category → String
  | style => "style"
  | naming => "naming"
  | complexity => "complexity"

/-- What a lint's fix does. A safe fix only moves text; a risky one changes names. -/
inductive FixOffer where
  | none
  | safe (description : String)
  | risky (description : String)
  deriving DecidableEq, Repr

namespace FixOffer

def isAvailable : FixOffer → Bool
  | none => false
  | _ => true

def safety : FixOffer → String
  | none | safe _ => "safe"
  | risky _ => "unsafe"

def description : FixOffer → String
  | none => ""
  | safe description | risky description => description

end FixOffer

namespace Lint

def all : List Lint := [.logicalExpressionComplexity, .orderedDestructuring,
  .orderedImportMembers, .orderedImportsByPath, .strictCamelCase]

def name : Lint → String
  | logicalExpressionComplexity => "logical_expression_complexity"
  | orderedDestructuring => "ordered_destructuring"
  | orderedImportMembers => "ordered_import_members"
  | orderedImportsByPath => "ordered_imports_by_path"
  | strictCamelCase => "strict_camel_case"

def dashedName : Lint → String
  | logicalExpressionComplexity => "logical-expression-complexity"
  | orderedDestructuring => "ordered-destructuring"
  | orderedImportMembers => "ordered-import-members"
  | orderedImportsByPath => "ordered-imports-by-path"
  | strictCamelCase => "strict-camel-case"

def canonical (name : String) : String :=
  match all.find? (·.dashedName == name) with
  | some lint => lint.name
  | none => name

def ofPlainName? (name : String) : Option Lint := all.find? (·.name == name)

def ofName? (name : String) : Option Lint := ofPlainName? (canonical name)

def isKnown (name : String) : Bool := all.any (·.name == name)

def isKnownName (name : String) : Bool := all.any fun lint => lint.name == name || lint.dashedName == name

def category : Lint → Category
  | logicalExpressionComplexity => .complexity
  | orderedDestructuring | orderedImportMembers | orderedImportsByPath => .style
  | strictCamelCase => .naming

def description : Lint → String
  | logicalExpressionComplexity =>
    "Logical expressions should stay below a nesting height and term count"
  | orderedDestructuring => "Keys of object destructuring patterns should be sorted"
  | orderedImportMembers => "Named imports inside braces should be sorted by local name"
  | orderedImportsByPath =>
    "Import declarations should be sorted by module path, optionally in configured groups"
  | strictCamelCase =>
    "Identifiers must be camel case with acronyms written as words (`xmlHttp`, not `XMLHttp`)"

def fix : Lint → FixOffer
  | logicalExpressionComplexity => .none
  | orderedDestructuring => .safe "Sort the destructured keys"
  | orderedImportMembers => .safe "Sort the imported members"
  | orderedImportsByPath => .safe "Sort the import declarations"
  | strictCamelCase => .risky "Rename this occurrence to the suggested name"

def messages : Lint → List (String × String)
  | logicalExpressionComplexity => [
    ("tooTall", "Expression height is \x7b\x7bheight\x7d\x7d; max allowed is \x7b\x7bmaxAllowed\x7d\x7d"),
    ("tooManyTerms",
      "Expression has \x7b\x7bnumTerms\x7d\x7d terms; max allowed is \x7b\x7bmaxAllowed\x7d\x7d")]
  | orderedDestructuring => [
    ("sortPropsInObjectPattern", "\x7b\x7bnext\x7d\x7d should come before \x7b\x7bcurrent\x7d\x7d")]
  | orderedImportMembers => [
    ("sortMembersAlphabetically",
      "Sort import members alphabetically. \"\x7b\x7bspecifierA\x7d\x7d\" should come before \"\x7b\x7bspecifierB\x7d\x7d\".")]
  | orderedImportsByPath => [
    ("sortSideEffectsFirst",
      "Sort side-effects-only modules before others. `\x7b\x7bdeclarationA\x7d\x7d` should come before `\x7b\x7bdeclarationB\x7d\x7d`"),
    ("sortImportsByPath",
      "Sort imports alphabetically by path. `\x7b\x7bdeclarationA\x7d\x7d` should come before `\x7b\x7bdeclarationB\x7d\x7d`"),
    ("sortTypeImports",
      "Type imports should be sorted \x7b\x7btypeStyle\x7d\x7d value imports. `\x7b\x7bdeclarationA\x7d\x7d` should come before `\x7b\x7bdeclarationB\x7d\x7d`"),
    ("wrongGroup",
      "\x7b\x7bdeclaration\x7d\x7d should be in group `\x7b\x7bcorrectGroupLabel\x7d\x7d` (#\x7b\x7bcorrectGroupIndex\x7d\x7d) but is in group `\x7b\x7bactualGroupLabel\x7d\x7d` (#\x7b\x7bactualGroupIndex\x7d\x7d)")]
  | strictCamelCase => [
    ("notCamelCaseWithSuggestion",
      "Identifier \"\x7b\x7bname\x7d\x7d\" is not in strict camel case, should be \"\x7b\x7bsuggestion\x7d\x7d\".\x7b\x7bdebug\x7d\x7d"),
    ("notCamelCasePrivateWithSuggestion",
      "\"Private member #\x7b\x7bname\x7d\x7d\" is not in strict camel case, should be \"#\x7b\x7bsuggestion\x7d\x7d\".\x7b\x7bdebug\x7d\x7d"),
    ("notCamelCaseNoSuggestion",
      "Identifier \"\x7b\x7bname\x7d\x7d\" is not in strict camel case, no suggestion possible for 1-char words.\x7b\x7bdebug\x7d\x7d"),
    ("notCamelCasePrivateNoSuggestion",
      "\"Private member #\x7b\x7bname\x7d\x7d\" is not in strict camel case, no suggestion possible for 1-char words.\x7b\x7bdebug\x7d\x7d")]

def template? (lint : Lint) (id : String) : Option String :=
  (lint.messages.find? (·.1 == id)).map Prod.snd

end Lint

abbrev MessageData := List (String × Text)

def Lint.render? (lint : Lint) (id : String) (data : MessageData) : Option Text :=
  (lint.template? id).map fun template =>
    Template.render (data.map fun (key, value) => (key.toList, value)) template.toList

end ScriptLint
