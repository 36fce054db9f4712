import ScriptLint.Syntax.Lowering.Builder

/-!
Variables, functions and classes.
-/
namespace ScriptLint.Lowerer

def declarator (l : Lowerer) (n : Concrete) : Builder NodeId := do
  let id ← l.lowerField n "name"
  let init ← l.lowerOption (n.field? "value")
  emit (.variableDeclarator id init) n

def variableKind (n : Concrete) : VariableKind :=
  if n.kind == "variable_declaration" then .var
  else if fieldKind n "kind" == "const" then .constant
  else .lexical

def variableDeclaration (l : Lowerer) (n : Concrete) : Builder NodeId := do
  let declarations ← (n.partsOf "variable_declarator").mapM l.declarator
  emit (.variableDeclaration (variableKind n) declarations) n

def loopKeyword? (n : Concrete) : Option (VariableKind × Span) := do
  let keyword ← n.field? "kind"
  let kind ← match keyword.kind with
    | "var" => some .var
    | "let" => some .lexical
    | "const" => some .constant
    | _ => none
  return (kind, keyword.span)

/-- The variable of a loop over a collection. A keyword turns it into a declaration that reaches
from the keyword to the end of the variable. -/
def loopVariable (l : Lowerer) (n left : Concrete) : Builder NodeId := do
  let id ← l.lower left
  match loopKeyword? n with
  | none => return id
  | some (kind, keyword) =>
    let init ← l.lowerOption (n.field? "value")
    let declarator ← Builder.push (.variableDeclarator id init) left.span
    Builder.push (.variableDeclaration kind [declarator]) ⟨keyword.start, left.span.stop⟩

def loopStatement (l : Lowerer) (n : Concrete) : Builder NodeId := do
  let left ← match n.field? "left" with
    | some left => some <$> l.loopVariable n left
    | none => pure none
  let right ← l.lowerOption (n.field? "right")
  let body ← l.lowerOption (n.field? "body")
  emit (.forStatement (left.toList ++ right.toList ++ body.toList)) n

/-- A parameter with a default value is an assignment pattern. A parameter without a pattern and a
decorator are left out. -/
def parameter (l : Lowerer) (n : Concrete) : Builder (Option NodeId) :=
  match n.kind with
  | "required_parameter" | "optional_parameter" =>
    match n.field? "pattern", n.field? "value" with
    | some pattern, some value => do
      let left ← l.lower pattern
      let right ← l.lower value
      some <$> emit (.assignmentPattern left right) n
    | some pattern, none => some <$> l.lower pattern
    | none, _ => pure none
  | "decorator" => pure none
  | _ => some <$> l.lower n

def parameters (l : Lowerer) (n : Concrete) : Builder (List NodeId) :=
  match n.field? "parameter", n.field? "parameters" with
  | some single, _ => do
    let id ← l.lower single
    return [id]
  | none, some list => do
    let params ← list.parts.mapM l.parameter
    return params.filterMap id
  | none, none => pure []

def functionRest (l : Lowerer) (n : Concrete) (kind : FunctionKind) (id : Option NodeId) :
    Builder NodeId := do
  let params ← l.parameters n
  let body ← l.lowerOption (n.field? "body")
  emit (.function kind id params body) n

def function (l : Lowerer) (n : Concrete) (kind : FunctionKind) : Builder NodeId := do
  let id ← l.identifierField n "name"
  l.functionRest n kind id

def method (l : Lowerer) (n : Concrete) : Builder NodeId := l.functionRest n .expression none

def classMember (l : Lowerer) (n : Concrete) : Builder NodeId :=
  let isStatic := n.hasMark "static"
  match n.kind with
  | "method_definition" =>
    match n.field? "name" with
    | none => l.generic n
    | some name => do
      let (key, computed) ← l.key name
      let value ← l.method n
      emit (.methodDefinition key value isStatic computed) n
  | "public_field_definition" | "field_definition" =>
    match (n.field? "name").orElse fun _ => n.field? "property" with
    | none => l.generic n
    | some name => do
      let (key, computed) ← l.key name
      let value ← l.lowerOption (n.field? "value")
      emit (.propertyDefinition key value isStatic computed) n
  | "method_signature" | "abstract_method_signature" => leaf n
  | _ => l.lower n

def heritage (n : Concrete) : List Concrete :=
  (n.partsOf "class_heritage").flatMap fun part =>
    (part.partsOf "extends_clause").flatMap (·.parts)

def classDefinition (l : Lowerer) (n : Concrete) (kind : ClassKind) : Builder NodeId := do
  let id ← l.identifierField n "name"
  let parents ← l.lowerAll (heritage n)
  let members ← match n.field? "body" with
    | some body => body.parts.mapM l.classMember
    | none => pure []
  emit (.classDefinition kind id parents members) n

end ScriptLint.Lowerer
