import ScriptLint.Syntax.Lowering.Construct
import ScriptLint.Syntax.Lowering.Modules
import ScriptLint.Syntax.Lowering.Objects
import ScriptLint.Syntax.Lowering.Types

/-!
Expressions, statements and whole programs.

`lowerWithin` goes down a bounded number of levels, and `Concrete.toTree` gives it the height of the
tree, so the bound is never reached.
-/
namespace ScriptLint

namespace Lowerer

def assignment (l : Lowerer) (n : Concrete) : Builder NodeId := do
  let left ← l.lowerField n "left"
  let right ← l.lowerField n "right"
  let operator := if n.kind == "assignment_expression" then "=" else fieldKind n "operator"
  emit (.assignmentExpression operator left right) n

def member (l : Lowerer) (n : Concrete) : Builder NodeId := do
  let object ← l.lowerField n "object"
  let property ← match n.field? "property" with
    | some name =>
      if name.kind == "private_property_identifier" then l.privateIdentifier name
      else l.identifier name
    | none => leaf n
  emit (.memberExpression object property false) n

def subscript (l : Lowerer) (n : Concrete) : Builder NodeId := do
  let object ← l.lowerField n "object"
  let property ← l.lowerField n "index"
  emit (.memberExpression object property true) n

def binary (l : Lowerer) (n : Concrete) : Builder NodeId := do
  let left ← l.lowerField n "left"
  let right ← l.lowerField n "right"
  match fieldKind n "operator" with
  | "&&" => emit (.logicalExpression .and left right) n
  | "||" => emit (.logicalExpression .or left right) n
  | "??" => emit (.logicalExpression .coalesce left right) n
  | operator => emit (.binaryExpression operator left right) n

def unary (l : Lowerer) (n : Concrete) : Builder NodeId := do
  let argument ← l.lowerField n "argument"
  emit (.unaryExpression (fieldKind n "operator") argument) n

def ternary (l : Lowerer) (n : Concrete) : Builder NodeId := do
  let test ← l.lowerField n "condition"
  let consequent ← l.lowerField n "consequence"
  let alternate ← l.lowerField n "alternative"
  emit (.conditionalExpression test consequent alternate) n

def catchClause (l : Lowerer) (n : Concrete) : Builder NodeId := do
  let param ← l.lowerOption (n.field? "parameter")
  let body ← l.lowerField n "body"
  emit (.catchClause param body) n

def labeled (l : Lowerer) (n : Concrete) : Builder NodeId := do
  let label ← l.identifierField n "label"
  let body ← l.lowerField n "body"
  match label with
  | some label => emit (.labeledStatement label body) n
  | none => emit (.other n.kind [body]) n

def lowerNode (l : Lowerer) (n : Concrete) : Builder NodeId :=
  match Construct.ofSymbol n.kind with
  | .leaf => leaf n
  | .identifier => l.identifier n
  | .privateIdentifier => l.privateIdentifier n
  | .literal => l.literal n
  | .parenthesized => l.lowerFirst n
  | .importStatement => l.importStatement n
  | .exportStatement => l.exportStatement n
  | .variableDeclaration => l.variableDeclaration n
  | .declarator => l.declarator n
  | .functionDeclaration => l.function n .declaration
  | .functionExpression => l.function n .expression
  | .arrowFunction => l.function n .arrow
  | .classDeclaration => l.classDefinition n .declaration
  | .classExpression => l.classDefinition n .expression
  | .object => l.object n
  | .objectPattern => l.objectPattern n
  | .arrayPattern => do
    let elements ← l.lowerAll n.parts
    emit (.arrayPattern elements) n
  | .restPattern => l.rest n
  | .assignmentPattern => do
    let left ← l.lowerField n "left"
    let right ← l.lowerField n "right"
    emit (.assignmentPattern left right) n
  | .assignment => l.assignment n
  | .member => l.member n
  | .subscript => l.subscript n
  | .binary => l.binary n
  | .unary => l.unary n
  | .ternary => l.ternary n
  | .typeCast => do
    let children ← l.lowerAll (n.parts.filter fun child => !Construct.isTypeSymbol child.kind)
    emit (.other n.kind children) n
  | .catchClause => l.catchClause n
  | .block => do
    let body ← l.lowerAll n.parts
    emit (.blockStatement body) n
  | .forLoop => do
    let children ← l.lowerAll n.parts
    emit (.forStatement children) n
  | .collectionLoop => l.loopStatement n
  | .labeled => l.labeled n
  | .breakStatement => do
    let label ← l.identifierField n "label"
    emit (.breakStatement label) n
  | .continueStatement => do
    let label ← l.identifierField n "label"
    emit (.continueStatement label) n
  | .interfaceDeclaration => l.interfaceDeclaration n
  | .typeAlias => l.typeAlias n
  | .enumDeclaration => l.enumDeclaration n
  | .moduleDeclaration => do
    let body ← l.lowerOption (n.field? "body")
    emit (.other n.kind body.toList) n
  | .markupElement => do
    let children ← l.lowerAll (n.partsBesides "name")
    emit (.other n.kind children) n
  | .generic => l.generic n

end Lowerer

def lowerWithin (source : Text) : Nat → Concrete → Builder NodeId
  | 0, n => Lowerer.leaf n
  | levels + 1, n => Lowerer.lowerNode ⟨source, lowerWithin source levels⟩ n

namespace Concrete

def lowerProgram (source : Text) (root : Concrete) : Builder NodeId := do
  let body ← root.parts.mapM (lowerWithin source root.height)
  Lowerer.emit (.program body) root

def toTree (source : Text) (root : Concrete) : Tree :=
  let (id, nodes) := (lowerProgram source root).run #[]
  { nodes, root := id }

end Concrete

end ScriptLint
