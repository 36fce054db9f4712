import ScriptLint.Text.Basic

/-!
Nodes of the abstract syntax tree.

A node refers to its children by their numbers. Whatever the rules never look at is an `other` node,
which keeps its children so that a walk still reaches what is nested in it.
-/
namespace ScriptLint

abbrev NodeId := Nat

inductive ImportKind where
  | value
  | type
  deriving DecidableEq, Repr

inductive VariableKind where
  | var
  | lexical
  | constant
  deriving DecidableEq, Repr

inductive FunctionKind where
  | declaration
  | expression
  | arrow
  deriving DecidableEq, Repr

inductive ClassKind where
  | declaration
  | expression
  deriving DecidableEq, Repr

inductive LogicalOperator where
  | and
  | or
  | coalesce
  deriving DecidableEq, Repr

/-- The kinds of nodes. An import or export that does not rename, and a shorthand property, refer to
one node in both places. The name of a private identifier stands without its `#`. -/
inductive NodeKind where
  | program (body : List NodeId)
  | importDeclaration (specifiers : List NodeId) (source : Text) (kind : ImportKind)
  | importSpecifier (imported : NodeId) (binding : NodeId)
  | importDefaultSpecifier (binding : NodeId)
  | importNamespaceSpecifier (binding : NodeId)
  | exportNamedDeclaration (declaration : Option NodeId) (specifiers : List NodeId)
    (source : Option Text)
  | exportSpecifier (origin : NodeId) (exported : NodeId)
  | exportAllDeclaration (exported : Option NodeId) (source : Text)
  | identifier (name : Text)
  | privateIdentifier (name : Text)
  | literal (raw : Text)
  | variableDeclaration (kind : VariableKind) (declarations : List NodeId)
  | variableDeclarator (id : NodeId) (init : Option NodeId)
  | function (kind : FunctionKind) (id : Option NodeId) (params : List NodeId)
    (body : Option NodeId)
  | classDefinition (kind : ClassKind) (id : Option NodeId) (heritage : List NodeId)
    (members : List NodeId)
  | methodDefinition (key : NodeId) (value : NodeId) (isStatic : Bool) (computed : Bool)
  | propertyDefinition (key : NodeId) (value : Option NodeId) (isStatic : Bool) (computed : Bool)
  | objectExpression (properties : List NodeId)
  | property (key : NodeId) (value : NodeId) (shorthand : Bool) (computed : Bool)
  | objectPattern (properties : List NodeId)
  | arrayPattern (elements : List NodeId)
  | restElement (argument : NodeId)
  | assignmentPattern (left : NodeId) (right : NodeId)
  | assignmentExpression (operator : String) (left : NodeId) (right : NodeId)
  | memberExpression (object : NodeId) (member : NodeId) (computed : Bool)
  | logicalExpression (operator : LogicalOperator) (left : NodeId) (right : NodeId)
  | binaryExpression (operator : String) (left : NodeId) (right : NodeId)
  | unaryExpression (operator : String) (argument : NodeId)
  | conditionalExpression (test : NodeId) (consequent : NodeId) (alternate : NodeId)
  | catchClause (param : Option NodeId) (body : NodeId)
  | blockStatement (body : List NodeId)
  | forStatement (children : List NodeId)
  | labeledStatement (label : NodeId) (body : NodeId)
  | breakStatement (label : Option NodeId)
  | continueStatement (label : Option NodeId)
  | interfaceDeclaration (id : NodeId) (typeParameters : List NodeId) (members : List NodeId)
  | typeAliasDeclaration (id : NodeId) (typeParameters : List NodeId) (aliased : Option NodeId)
  | typeLiteral (members : List NodeId)
  | propertySignature (key : NodeId) (computed : Bool)
  | methodSignature (key : NodeId) (computed : Bool)
  | enumDeclaration (id : NodeId) (members : List NodeId)
  | enumMember (id : NodeId) (initializer : Option NodeId)
  | typeParameter (name : NodeId)
  | other (grammarKind : String) (children : List NodeId)
  deriving DecidableEq, Repr

inductive NodeTag where
  | program
  | importDeclaration
  | importSpecifier
  | importDefaultSpecifier
  | importNamespaceSpecifier
  | exportNamedDeclaration
  | exportSpecifier
  | exportAllDeclaration
  | identifier
  | privateIdentifier
  | literal
  | variableDeclaration
  | variableDeclarator
  | function
  | classDefinition
  | methodDefinition
  | propertyDefinition
  | objectExpression
  | property
  | objectPattern
  | arrayPattern
  | restElement
  | assignmentPattern
  | assignmentExpression
  | memberExpression
  | logicalExpression
  | binaryExpression
  | unaryExpression
  | conditionalExpression
  | catchClause
  | blockStatement
  | forStatement
  | labeledStatement
  | breakStatement
  | continueStatement
  | interfaceDeclaration
  | typeAliasDeclaration
  | typeLiteral
  | propertySignature
  | methodSignature
  | enumDeclaration
  | enumMember
  | typeParameter
  | other
  deriving DecidableEq, Repr

namespace NodeTag

def name : NodeTag → String
  | program => "Program"
  | importDeclaration => "ImportDeclaration"
  | importSpecifier => "ImportSpecifier"
  | importDefaultSpecifier => "ImportDefaultSpecifier"
  | importNamespaceSpecifier => "ImportNamespaceSpecifier"
  | exportNamedDeclaration => "ExportNamedDeclaration"
  | exportSpecifier => "ExportSpecifier"
  | exportAllDeclaration => "ExportAllDeclaration"
  | identifier => "Identifier"
  | privateIdentifier => "PrivateIdentifier"
  | literal => "Literal"
  | variableDeclaration => "VariableDeclaration"
  | variableDeclarator => "VariableDeclarator"
  | function => "Function"
  | classDefinition => "Class"
  | methodDefinition => "MethodDefinition"
  | propertyDefinition => "PropertyDefinition"
  | objectExpression => "ObjectExpression"
  | property => "Property"
  | objectPattern => "ObjectPattern"
  | arrayPattern => "ArrayPattern"
  | restElement => "RestElement"
  | assignmentPattern => "AssignmentPattern"
  | assignmentExpression => "AssignmentExpression"
  | memberExpression => "MemberExpression"
  | logicalExpression => "LogicalExpression"
  | binaryExpression => "BinaryExpression"
  | unaryExpression => "UnaryExpression"
  | conditionalExpression => "ConditionalExpression"
  | catchClause => "CatchClause"
  | blockStatement => "BlockStatement"
  | forStatement => "ForStatement"
  | labeledStatement => "LabeledStatement"
  | breakStatement => "BreakStatement"
  | continueStatement => "ContinueStatement"
  | interfaceDeclaration => "TsInterfaceDeclaration"
  | typeAliasDeclaration => "TsTypeAliasDeclaration"
  | typeLiteral => "TsTypeLiteral"
  | propertySignature => "TsPropertySignature"
  | methodSignature => "TsMethodSignature"
  | enumDeclaration => "TsEnumDeclaration"
  | enumMember => "TsEnumMember"
  | typeParameter => "TsTypeParameter"
  | other => "Other"

def all : List NodeTag := [
  .program, .importDeclaration, .importSpecifier, .importDefaultSpecifier,
  .importNamespaceSpecifier, .exportNamedDeclaration, .exportSpecifier, .exportAllDeclaration,
  .identifier, .privateIdentifier, .literal, .variableDeclaration, .variableDeclarator, .function,
  .classDefinition, .methodDefinition, .propertyDefinition, .objectExpression, .property,
  .objectPattern, .arrayPattern, .restElement, .assignmentPattern, .assignmentExpression,
  .memberExpression, .logicalExpression, .binaryExpression, .unaryExpression,
  .conditionalExpression, .catchClause, .blockStatement, .forStatement, .labeledStatement,
  .breakStatement, .continueStatement, .interfaceDeclaration, .typeAliasDeclaration, .typeLiteral,
  .propertySignature, .methodSignature, .enumDeclaration, .enumMember, .typeParameter, .other]

def ofName? (s : String) : Option NodeTag := all.find? (·.name == s)

def placeName (tag : NodeTag) : String :=
  match tag with
  | .identifier | .privateIdentifier | .program | .importDeclaration | .objectPattern | .property
  | .logicalExpression | .binaryExpression | .unaryExpression | .conditionalExpression => tag.name
  | _ => "node"

end NodeTag

namespace NodeKind

def tag : NodeKind → NodeTag
  | .program .. => .program
  | .importDeclaration .. => .importDeclaration
  | .importSpecifier .. => .importSpecifier
  | .importDefaultSpecifier .. => .importDefaultSpecifier
  | .importNamespaceSpecifier .. => .importNamespaceSpecifier
  | .exportNamedDeclaration .. => .exportNamedDeclaration
  | .exportSpecifier .. => .exportSpecifier
  | .exportAllDeclaration .. => .exportAllDeclaration
  | .identifier .. => .identifier
  | .privateIdentifier .. => .privateIdentifier
  | .literal .. => .literal
  | .variableDeclaration .. => .variableDeclaration
  | .variableDeclarator .. => .variableDeclarator
  | .function .. => .function
  | .classDefinition .. => .classDefinition
  | .methodDefinition .. => .methodDefinition
  | .propertyDefinition .. => .propertyDefinition
  | .objectExpression .. => .objectExpression
  | .property .. => .property
  | .objectPattern .. => .objectPattern
  | .arrayPattern .. => .arrayPattern
  | .restElement .. => .restElement
  | .assignmentPattern .. => .assignmentPattern
  | .assignmentExpression .. => .assignmentExpression
  | .memberExpression .. => .memberExpression
  | .logicalExpression .. => .logicalExpression
  | .binaryExpression .. => .binaryExpression
  | .unaryExpression .. => .unaryExpression
  | .conditionalExpression .. => .conditionalExpression
  | .catchClause .. => .catchClause
  | .blockStatement .. => .blockStatement
  | .forStatement .. => .forStatement
  | .labeledStatement .. => .labeledStatement
  | .breakStatement .. => .breakStatement
  | .continueStatement .. => .continueStatement
  | .interfaceDeclaration .. => .interfaceDeclaration
  | .typeAliasDeclaration .. => .typeAliasDeclaration
  | .typeLiteral .. => .typeLiteral
  | .propertySignature .. => .propertySignature
  | .methodSignature .. => .methodSignature
  | .enumDeclaration .. => .enumDeclaration
  | .enumMember .. => .enumMember
  | .typeParameter .. => .typeParameter
  | .other .. => .other

def children : NodeKind → List NodeId
  | .program body => body
  | .importDeclaration specifiers _ _ => specifiers
  | .importSpecifier imported binding =>
    if binding = imported then [imported] else [imported, binding]
  | .importDefaultSpecifier binding => [binding]
  | .importNamespaceSpecifier binding => [binding]
  | .exportNamedDeclaration declaration specifiers _ => declaration.toList ++ specifiers
  | .exportSpecifier origin exported => if exported = origin then [origin] else [origin, exported]
  | .exportAllDeclaration exported _ => exported.toList
  | .identifier _ => []
  | .privateIdentifier _ => []
  | .literal _ => []
  | .variableDeclaration _ declarations => declarations
  | .variableDeclarator id init => id :: init.toList
  | .function _ id params body => id.toList ++ params ++ body.toList
  | .classDefinition _ id heritage members => id.toList ++ heritage ++ members
  | .methodDefinition key value _ _ => [key, value]
  | .propertyDefinition key value _ _ => key :: value.toList
  | .objectExpression properties => properties
  | .property key value _ _ => if value = key then [key] else [key, value]
  | .objectPattern properties => properties
  | .arrayPattern elements => elements
  | .restElement argument => [argument]
  | .assignmentPattern left right => [left, right]
  | .assignmentExpression _ left right => [left, right]
  | .memberExpression object member _ => [object, member]
  | .logicalExpression _ left right => [left, right]
  | .binaryExpression _ left right => [left, right]
  | .unaryExpression _ argument => [argument]
  | .conditionalExpression test consequent alternate => [test, consequent, alternate]
  | .catchClause param body => param.toList ++ [body]
  | .blockStatement body => body
  | .forStatement children => children
  | .labeledStatement label body => [label, body]
  | .breakStatement label => label.toList
  | .continueStatement label => label.toList
  | .interfaceDeclaration id typeParameters members => id :: (typeParameters ++ members)
  | .typeAliasDeclaration id typeParameters aliased => id :: (typeParameters ++ aliased.toList)
  | .typeLiteral members => members
  | .propertySignature key _ => [key]
  | .methodSignature key _ => [key]
  | .enumDeclaration id members => id :: members
  | .enumMember id initializer => id :: initializer.toList
  | .typeParameter name => [name]
  | .other _ children => children

def describe : NodeKind → String
  | .other grammarKind _ => s!"Other({grammarKind})"
  | kind => kind.tag.name

def name? : NodeKind → Option Text
  | .identifier name | .privateIdentifier name => some name
  | _ => none

end NodeKind

structure Node where
  kind : NodeKind
  /-- A node of a broken tree may lack its place. -/
  span : Option Span
  deriving DecidableEq, Repr

end ScriptLint
