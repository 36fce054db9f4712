import ScriptLint.Syntax.Globals
import ScriptLint.Syntax.Tree

/-!
Scopes: what each declaration binds, and which binding an identifier refers to.

A scope is opened by a node. The scopes around a node form a chain from the innermost one outward.
`Tree.bindings` lists every binding of a tree first; a name is then looked up in all of them, so a
use may stand before its declaration.
-/
namespace ScriptLint

inductive ScopeKind where
  | program
  | function
  | block
  | handler
  | classBody
  deriving DecidableEq, Repr

structure Scope where
  kind : ScopeKind
  node : NodeId
  deriving DecidableEq, Repr

abbrev ScopeChain := List Scope

structure Binding where
  /-- The scope that the name belongs to, with those around it. -/
  scope : ScopeChain
  name : Text
  identifier : NodeId
  /-- The declaration, function, class, clause or specifier that binds the name. -/
  declaredBy : NodeId
  /-- Whether a declarator gives the name a first value. -/
  initialized : Bool
  deriving DecidableEq, Repr

/-- An identifier that stands for a variable. `init` marks the first value given by a declarator. -/
structure Reference where
  identifier : NodeId
  init : Bool
  deriving DecidableEq, Repr

structure Variable where
  name : Text
  scope : ScopeChain
  /-- Declaring identifiers; several when the name is declared again. -/
  identifiers : List NodeId
  references : List Reference
  deriving DecidableEq, Repr

namespace Tree

/-- The kind of scope that a node opens. The block of a function shares the function's scope. -/
def opens? (t : Tree) (id : NodeId) : Option ScopeKind :=
  match t.kind id with
  | .function .. => some .function
  | .classDefinition .. => some .classBody
  | .catchClause .. => some .handler
  | .forStatement .. => some .block
  | .blockStatement _ => if t.parentTag? id = some .function then none else some .block
  | _ => none

def enter (t : Tree) (outer : ScopeChain) (id : NodeId) : ScopeChain :=
  match t.opens? id with
  | some kind => ⟨kind, id⟩ :: outer
  | none => outer

def moduleScope (t : Tree) : ScopeChain := [⟨.program, t.root⟩]

def scopedWithin (t : Tree) : Nat → ScopeChain → NodeId → List (NodeId × ScopeChain)
  | 0, _, _ => []
  | levels + 1, outer, id =>
    (id, outer) :: (t.children id).flatMap (scopedWithin t levels (t.enter outer id))

def scopedNodes (t : Tree) : List (NodeId × ScopeChain) :=
  t.scopedWithin t.nodes.size t.moduleScope t.root

def patternNamesWithin (t : Tree) : Nat → NodeId → List NodeId
  | 0, _ => []
  | levels + 1, id => match t.kind id with
    | .identifier _ => [id]
    | .objectPattern properties => properties.flatMap fun property =>
      match t.kind property with
      | .property _ value _ _ => patternNamesWithin t levels value
      | _ => patternNamesWithin t levels property
    | .arrayPattern elements => elements.flatMap (patternNamesWithin t levels)
    | .assignmentPattern left _ => patternNamesWithin t levels left
    | .restElement argument => patternNamesWithin t levels argument
    | _ => []

def patternNames (t : Tree) (id : NodeId) : List NodeId :=
  t.patternNamesWithin (t.nodes.size + 1) id

def hoist : ScopeChain → ScopeChain
  | [] => []
  | [scope] => [scope]
  | scope :: outer =>
    if scope.kind = .function || scope.kind = .program then scope :: outer else hoist outer

def bind (t : Tree) (scope : ScopeChain) (declaredBy : NodeId) (initialized : Bool)
    (id : NodeId) : List Binding :=
  match t.kind id with
  | .identifier name => [⟨scope, name, id, declaredBy, initialized⟩]
  | _ => []

def bindPattern (t : Tree) (scope : ScopeChain) (declaredBy : NodeId) (initialized : Bool)
    (pattern : NodeId) : List Binding :=
  (t.patternNames pattern).flatMap (t.bind scope declaredBy initialized)

/-- The bindings that a node makes by itself. A declared function or class is bound around its
scope, the name of an expression inside it, and an import in the module. -/
def bindingsAt (t : Tree) (id : NodeId) (outer : ScopeChain) : List Binding :=
  let inner := t.enter outer id
  match t.kind id with
  | .variableDeclaration kind declarations =>
    let target := if kind = .var then hoist outer else outer
    declarations.flatMap fun declarator =>
      match t.kind declarator with
      | .variableDeclarator pattern init => t.bindPattern target id init.isSome pattern
      | _ => []
  | .function kind name params _ =>
    let own := match kind, name with
      | .declaration, some name => t.bind outer id false name
      | .expression, some name => t.bind inner id false name
      | _, _ => []
    own ++ params.flatMap (t.bindPattern inner id false)
  | .classDefinition kind name _ _ =>
    match kind, name with
    | .declaration, some name => t.bind outer id false name
    | .expression, some name => t.bind inner id false name
    | _, none => []
  | .catchClause param _ => param.toList.flatMap (t.bindPattern inner id false)
  | .importDefaultSpecifier binding | .importNamespaceSpecifier binding
  | .importSpecifier _ binding => t.bind t.moduleScope id false binding
  | .interfaceDeclaration name _ _ | .typeAliasDeclaration name _ _ | .enumDeclaration name _
  | .typeParameter name => t.bind outer id false name
  | _ => []

def bindings (t : Tree) : List Binding :=
  t.scopedNodes.flatMap fun (id, outer) => t.bindingsAt id outer

/-- Whether an identifier stands where it can refer to a variable, judged by its parent. Keys,
labels and the far names of imports and exports do not. -/
def isReferencePosition (t : Tree) (id : NodeId) : Bool :=
  match t.parent? id with
  | none => true
  | some parent => match t.kind parent with
    | .property key value _ computed => !(key == id && value != id && !computed)
    | .methodDefinition key _ _ computed | .propertyDefinition key _ _ computed
    | .propertySignature key computed | .methodSignature key computed => !(key == id && !computed)
    | .memberExpression _ member computed => !(member == id && !computed)
    | .enumMember name _ => name != id
    | .labeledStatement .. | .breakStatement _ | .continueStatement _
    | .exportAllDeclaration .. => false
    | .importSpecifier imported binding => !(imported == id && binding != id)
    | .exportSpecifier origin _ =>
      origin == id && match (t.parent? parent).map t.kind with
        | some (.exportNamedDeclaration _ _ (some _)) => false
        | _ => true
    | _ => true

end Tree

structure ScopeTable where
  allVariables : List Variable
  /-- References to no variable and no known global name. -/
  unresolved : List NodeId
  bindings : List Binding

namespace ScopeTable

abbrev Key := ScopeChain × Text

def keyOf (b : Binding) : Key := (b.scope, b.name)

def lookup? (keys : List Key) (name : Text) : ScopeChain → Option Key
  | [] => none
  | scope :: outer =>
    if keys.contains (scope :: outer, name) then some (scope :: outer, name)
    else lookup? keys name outer

structure Use where
  identifier : NodeId
  name : Text
  chain : ScopeChain

def usesOf (t : Tree) (bindings : List Binding) : List Use :=
  let declaring := bindings.map (·.identifier)
  t.scopedNodes.filterMap fun (id, outer) =>
    match t.kind id with
    | .identifier name =>
      if declaring.contains id || !t.isReferencePosition id then none else some ⟨id, name, outer⟩
    | _ => none

def variableOf (bindings : List Binding) (resolved : List (NodeId × Option Key)) (key : Key) :
    Variable :=
  let own := bindings.filter fun b => keyOf b == key
  { name := key.2
    scope := key.1
    identifiers := (own.map (·.identifier)).eraseDups
    references :=
      (own.filter (·.initialized)).map (fun b => ⟨b.identifier, true⟩) ++
      (resolved.filter fun use => use.2 == some key).map fun use => ⟨use.1, false⟩ }

def ofTree (t : Tree) (globals : List Text) : ScopeTable :=
  let bindings := t.bindings
  let keys := (bindings.map keyOf).eraseDups
  let uses := usesOf t bindings
  let resolved := uses.map fun use => (use.identifier, lookup? keys use.name use.chain)
  { allVariables := keys.map (variableOf bindings resolved)
    unresolved := (uses.filter fun use =>
      (lookup? keys use.name use.chain).isNone && !isBuiltinGlobal use.name &&
        !globals.contains use.name).map (·.identifier)
    bindings }

def named? (s : ScopeTable) (key : Key) : Option Variable :=
  s.allVariables.find? fun v => (v.scope, v.name) == key

def declared (s : ScopeTable) (node : NodeId) : List Variable :=
  (((s.bindings.filter (·.declaredBy == node)).map keyOf).eraseDups).filterMap s.named?

end ScopeTable

end ScriptLint
