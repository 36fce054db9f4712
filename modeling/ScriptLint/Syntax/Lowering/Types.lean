import ScriptLint.Syntax.Lowering.Builder

/-!
Declarations of interfaces, type aliases and enums. Types themselves are leaves, so a name inside a
type is never a reference.
-/
namespace ScriptLint.Lowerer

def typeParameters (l : Lowerer) (n : Concrete) : Builder (List NodeId) :=
  match n.field? "type_parameters" with
  | none => pure []
  | some list => do
    let params ← (list.partsOf "type_parameter").mapM fun param =>
      match param.field? "name" with
      | none => pure none
      | some child => do
        let name ← l.identifier child
        some <$> emit (.typeParameter name) param
    return params.filterMap id

def signature (l : Lowerer) (n : Concrete) : Builder NodeId :=
  match n.kind, n.field? "name" with
  | "property_signature", some name => do
    let (key, computed) ← l.key name
    emit (.propertySignature key computed) n
  | "method_signature", some name => do
    let (key, computed) ← l.key name
    emit (.methodSignature key computed) n
  | _, _ => leaf n

def interfaceDeclaration (l : Lowerer) (n : Concrete) : Builder NodeId :=
  match n.field? "name" with
  | none => leaf n
  | some name => do
    let id ← l.identifier name
    let params ← l.typeParameters n
    let members ← match n.field? "body" with
      | some body => body.parts.mapM l.signature
      | none => pure []
    emit (.interfaceDeclaration id params members) n

def aliasedType (l : Lowerer) (n : Concrete) : Builder NodeId :=
  if n.kind == "object_type" then do
    let members ← n.parts.mapM l.signature
    emit (.typeLiteral members) n
  else leaf n

def typeAlias (l : Lowerer) (n : Concrete) : Builder NodeId :=
  match n.field? "name" with
  | none => leaf n
  | some name => do
    let id ← l.identifier name
    let params ← l.typeParameters n
    let aliased ← match n.field? "value" with
      | some value => some <$> l.aliasedType value
      | none => pure none
    emit (.typeAliasDeclaration id params aliased) n

def enumMember (l : Lowerer) (n : Concrete) : Builder (Option NodeId) :=
  match n.kind, n.field? "name" with
  | "enum_assignment", none => pure none
  | "enum_assignment", some name => do
    let (key, _) ← l.key name
    let init ← l.lowerOption (n.field? "value")
    some <$> emit (.enumMember key init) n
  | _, _ => do
    let (key, _) ← l.key n
    some <$> emit (.enumMember key none) n

def enumDeclaration (l : Lowerer) (n : Concrete) : Builder NodeId :=
  match n.field? "name" with
  | none => leaf n
  | some name => do
    let id ← l.identifier name
    let members ← match n.field? "body" with
      | some body => body.parts.mapM l.enumMember
      | none => pure []
    emit (.enumDeclaration id (members.filterMap fun member => member)) n

end ScriptLint.Lowerer
