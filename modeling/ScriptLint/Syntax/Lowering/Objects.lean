import ScriptLint.Syntax.Lowering.Declarations

/-!
Object literals and destructuring patterns.
-/
namespace ScriptLint.Lowerer

def pair (l : Lowerer) (n : Concrete) : Builder (Option NodeId) :=
  match n.field? "key" with
  | none => pure none
  | some name => do
    let (key, computed) ← l.key name
    let value ← l.lowerField n "value"
    some <$> emit (.property key value false computed) n

def shorthand (l : Lowerer) (n : Concrete) : Builder (Option NodeId) := do
  let id ← l.identifier n
  some <$> emit (.property id id true false) n

def objectMember (l : Lowerer) (n : Concrete) : Builder (Option NodeId) :=
  match n.kind with
  | "pair" => l.pair n
  | "shorthand_property_identifier" => l.shorthand n
  | "method_definition" =>
    match n.field? "name" with
    | none => pure none
    | some name => do
      let (key, computed) ← l.key name
      let value ← l.method n
      some <$> emit (.property key value false computed) n
  | _ => some <$> l.lower n

def object (l : Lowerer) (n : Concrete) : Builder NodeId := do
  let properties ← n.parts.mapM l.objectMember
  emit (.objectExpression (properties.filterMap id)) n

def rest (l : Lowerer) (n : Concrete) : Builder NodeId := do
  let argument ← l.lowerFirst n
  emit (.restElement argument) n

/-- `name = value` in a pattern. For a plain name the key and the binding are two nodes over the
same text. The value is built first. -/
def patternDefault (l : Lowerer) (n : Concrete) : Builder (Option NodeId) :=
  match n.field? "left" with
  | none => pure none
  | some name => do
    let right ← l.lowerField n "right"
    if name.kind == "shorthand_property_identifier_pattern" then
      let key ← l.identifier name
      let binding ← l.identifier name
      let value ← emit (.assignmentPattern binding right) n
      some <$> emit (.property key value true false) n
    else
      let left ← l.lower name
      some <$> emit (.assignmentPattern left right) n

def patternMember (l : Lowerer) (n : Concrete) : Builder (Option NodeId) :=
  match n.kind with
  | "pair_pattern" => l.pair n
  | "shorthand_property_identifier_pattern" => l.shorthand n
  | "object_assignment_pattern" => l.patternDefault n
  | "rest_pattern" => some <$> l.rest n
  | _ => some <$> l.lower n

def objectPattern (l : Lowerer) (n : Concrete) : Builder NodeId := do
  let properties ← n.parts.mapM l.patternMember
  emit (.objectPattern (properties.filterMap id)) n

end ScriptLint.Lowerer
