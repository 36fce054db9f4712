import ScriptLint.Lint.Rule
import ScriptLint.Naming.Casing

/-!
Names should be in strict camel case.

A node leads to occurrences of names that are not: a declaration to the names that it binds and to
their uses, an identifier in a naming place to itself, the program to the names that nothing in the
file declares. Each place in the file is reported once.
-/
namespace ScriptLint

inductive SingleWordPosition where
  | enumMember
  | firstClassConstant
  | objectField
  | staticClassField
  deriving DecidableEq, Repr

namespace SingleWordPosition

def name : SingleWordPosition → String
  | enumMember => "EnumMember"
  | firstClassConstant => "FirstClassConstant"
  | objectField => "ObjectField"
  | staticClassField => "StaticClassField"

def keyword : SingleWordPosition → String
  | enumMember => "enum_member"
  | firstClassConstant => "first_class_constant"
  | objectField => "object_field"
  | staticClassField => "static_class_field"

def all : List SingleWordPosition :=
  [.enumMember, .firstClassConstant, .objectField, .staticClassField]

def ofKeyword? (s : String) : Option SingleWordPosition := all.find? (·.keyword == s)

end SingleWordPosition

structure CamelCaseOptions where
  ignoreProperties : Bool := false
  ignoreImports : Bool := false
  ignoredIdentifiers : List Text := []
  oneCharWords : OneCharWords := .never
  ignoreSingleWords : Bool := false
  ignoreSingleWordsIn : List SingleWordPosition := []
  deriving DecidableEq, Repr

namespace CamelCase

def casing (o : CamelCaseOptions) : Casing :=
  ⟨o.ignoredIdentifiers, o.oneCharWords, o.ignoreSingleWords⟩

def isExempt (o : CamelCaseOptions) (position : SingleWordPosition) : Bool :=
  o.ignoreSingleWordsIn.contains position

/-- An identifier whose name is not in camel case, with a better name if there is one, and the
reason why it was looked at. -/
structure Occurrence where
  identifier : NodeId
  suggestion : Option Text
  context : String
  deriving DecidableEq, Repr

def rejected? (o : CamelCaseOptions) (exempt : Bool) (name : Text) : Option (Option Text) :=
  match (casing o).check exempt name with
  | .valid => none
  | .invalid suggestion => some suggestion

def globalOccurrences (o : CamelCaseOptions) (file : SourceFile) : List Occurrence :=
  file.scopes.unresolved.filterMap fun id =>
    (file.tree.name? id).bind fun name => (rejected? o false name).map fun suggestion =>
      ⟨id, suggestion, "global reference"⟩

def variableOccurrences (suggestion : Option Text) (context useContext : String)
    (identifiers uses : List NodeId) : List Occurrence :=
  match identifiers with
  | [] => []
  | id :: _ => ⟨id, suggestion, context⟩ :: uses.map fun id => ⟨id, suggestion, useContext⟩

def declarationOccurrences (o : CamelCaseOptions) (file : SourceFile) (exempt : Bool)
    (id : NodeId) : List Occurrence :=
  (file.scopes.declared id).flatMap fun v =>
    match rejected? o exempt v.name with
    | none => []
    | some suggestion => variableOccurrences suggestion "declaration" "declaration reference"
      v.identifiers ((v.references.filter (!·.init)).map (·.identifier))

/-- Whether an import keeps the name that the other file exports. Only that file can change it. -/
def keepsName (t : Tree) (specifier : NodeId) (name : Text) : Bool :=
  match t.kind specifier with
  | .importSpecifier imported _ => t.name? imported == some name
  | _ => false

def importOccurrences (o : CamelCaseOptions) (file : SourceFile) (specifier : NodeId) :
    List Occurrence :=
  (file.scopes.declared specifier).flatMap fun v =>
    match rejected? o false v.name with
    | none => []
    | some suggestion =>
      if keepsName file.tree specifier v.name then []
      else variableOccurrences suggestion "import" "import reference"
        v.identifiers (v.references.map (·.identifier))

inductive NameSite where
  /-- A member of an object, class or type. -/
  | member (exempt : Bool)
  | exportOrLabel
  deriving DecidableEq, Repr

def isAssignmentTarget (t : Tree) (member : NodeId) : Bool :=
  match (t.parent? member).map t.kind with
  | some (.assignmentExpression _ left _) => left == member
  | _ => false

def isNamedTypeMember (t : Tree) (signature : NodeId) : Bool :=
  match t.parentTag? signature with
  | some .interfaceDeclaration => true
  | some .typeLiteral => (t.parent? signature).bind t.parentTag? == some .typeAliasDeclaration
  | _ => false

def nameSite? (o : CamelCaseOptions) (t : Tree) (id : NodeId) : Option NameSite :=
  let isPrivate := t.tag id == .privateIdentifier
  match t.parent? id with
  | none => none
  | some parent => match t.kind parent with
    | .property key _ _ computed =>
      if !computed && key == id && t.parentTag? parent == some .objectExpression then
        some (.member (isExempt o .objectField))
      else none
    | .methodDefinition key _ _ computed =>
      if !computed && key == id then some (.member false) else none
    | .propertyDefinition key _ isStatic computed =>
      if !computed && key == id then
        some (.member (!isPrivate && isStatic && isExempt o .staticClassField))
      else none
    | .memberExpression _ member computed =>
      if !computed && member == id && isAssignmentTarget t parent then
        some (.member (!isPrivate && isExempt o .objectField))
      else none
    | .propertySignature key computed =>
      if !computed && key == id && isNamedTypeMember t parent then some (.member false) else none
    | .methodSignature key computed =>
      if !computed && key == id && t.parentTag? parent == some .interfaceDeclaration then
        some (.member false)
      else none
    | .enumMember name _ =>
      if name == id then some (.member (isExempt o .enumMember)) else none
    | .exportAllDeclaration exported _ =>
      if exported == some id && !isPrivate then some .exportOrLabel else none
    | .exportSpecifier _ exported =>
      if exported == id && !isPrivate then some .exportOrLabel else none
    | .labeledStatement label _ => if label == id then some .exportOrLabel else none
    | .breakStatement label | .continueStatement label =>
      if label == some id then some .exportOrLabel else none
    | _ => none

def siteOccurrences (o : CamelCaseOptions) (t : Tree) (id : NodeId) : List Occurrence :=
  match nameSite? o t id, t.name? id with
  | some (.member exempt), some name =>
    if o.ignoreProperties then []
    else match rejected? o exempt name with
      | some suggestion => [⟨id, suggestion, "member name"⟩]
      | none => []
  | some .exportOrLabel, some name => match rejected? o false name with
    | some suggestion => [⟨id, suggestion, "export or label"⟩]
    | none => []
  | _, _ => []

def occurrences (o : CamelCaseOptions) (file : SourceFile) (id : NodeId) : List Occurrence :=
  match file.tree.kind id with
  | .program _ => globalOccurrences o file
  | .variableDeclaration kind _ =>
    declarationOccurrences o file (kind == .constant && isExempt o .firstClassConstant) id
  | .function .. | .catchClause .. | .classDefinition .. | .interfaceDeclaration ..
  | .enumDeclaration .. | .typeAliasDeclaration .. => declarationOccurrences o file false id
  | .importDeclaration specifiers _ _ =>
    if o.ignoreImports then [] else specifiers.flatMap (importOccurrences o file)
  | .identifier _ | .privateIdentifier _ => siteOccurrences o file.tree id
  | _ => []

def messageId (isPrivate hasSuggestion : Bool) : String :=
  match isPrivate, hasSuggestion with
  | false, true => "notCamelCaseWithSuggestion"
  | true, true => "notCamelCasePrivateWithSuggestion"
  | false, false => "notCamelCaseNoSuggestion"
  | true, false => "notCamelCasePrivateNoSuggestion"

def suggest (span : Span) (isPrivate : Bool) (name fixed : Text) : Suggestion :=
  { message := "Replace \"".toList ++ name ++ "\" with \"".toList ++ fixed ++ ['\x22']
    edit := ⟨span, (if isPrivate then ['#'] else []) ++ fixed⟩
    applicability := .maybeIncorrect }

def finding (detail : Bool) (t : Tree) (span : Span) (occ : Occurrence) : Finding :=
  let isPrivate := t.tag occ.identifier == .privateIdentifier
  let name := (t.name? occ.identifier).getD []
  { lint := .strictCamelCase
    span
    messageId := messageId isPrivate occ.suggestion.isSome
    data := [
      ("name", name),
      ("suggestion", occ.suggestion.getD []),
      ("debug", if detail then s!" ({occ.context} {t.path occ.identifier})".toList else [])]
    suggestion := occ.suggestion.map (suggest span isPrivate name) }

def reportNew (detail : Bool) (t : Tree) : List Nat → List Occurrence → Step (List Nat)
  | reported, [] => .quiet reported
  | reported, occ :: occs => match t.place occ.identifier with
    | .error e => .fail e
    | .ok span =>
      if reported.contains span.start then reportNew detail t reported occs
      else
        let rest := reportNew detail t (span.start :: reported) occs
        ⟨finding detail t span occ :: rest.findings, rest.outcome⟩

def namingParents : List NodeTag := [
  .property, .methodDefinition, .propertyDefinition, .memberExpression, .propertySignature,
  .methodSignature, .enumMember, .exportAllDeclaration, .exportSpecifier, .labeledStatement,
  .breakStatement, .continueStatement]

def selectors : List Selector :=
  [⟨.program, none⟩, ⟨.function, none⟩, ⟨.catchClause, none⟩, ⟨.classDefinition, none⟩,
    ⟨.interfaceDeclaration, none⟩, ⟨.enumDeclaration, none⟩, ⟨.typeAliasDeclaration, none⟩,
    ⟨.variableDeclaration, none⟩, ⟨.importDeclaration, none⟩] ++
  namingParents.flatMap fun parent =>
    [⟨.identifier, some parent⟩, ⟨.privateIdentifier, some parent⟩]

def rule (detail : Bool) (o : CamelCaseOptions) : Rule :=
  { lint := .strictCamelCase
    State := List Nat
    start := fun _ => []
    selectors
    visit := fun file reported id => reportNew detail file.tree reported (occurrences o file id) }

def rule? (detail : Bool) (o : CamelCaseOptions) : Except OptionError Rule :=
  match firstRepeated? [] o.ignoredIdentifiers, firstRepeated? [] o.ignoreSingleWordsIn with
  | some name, _ => .error (.repeatedIdentifier name)
  | none, some position => .error (.repeatedPosition position.name)
  | none, none => .ok (rule detail o)

end CamelCase

end ScriptLint
