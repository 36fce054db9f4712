import ScriptLint.Syntax.Lowering.Builder

/-!
Imports and exports.
-/
namespace ScriptLint.Lowerer

def importParts (n : Concrete) : List Concrete :=
  (n.partsOf "import_clause").flatMap fun clause =>
    clause.parts.flatMap fun part =>
      match part.kind with
      | "identifier" => [part]
      | "namespace_import" => if (part.partsOf "identifier").isEmpty then [] else [part]
      | "named_imports" => part.partsOf "import_specifier"
      | _ => []

def namespaceImport (l : Lowerer) (n : Concrete) : Builder NodeId :=
  match n.partsOf "identifier" with
  | name :: _ => do
    let binding ← l.identifier name
    emit (.importNamespaceSpecifier binding) n
  | [] => leaf n

def importMember (l : Lowerer) (n : Concrete) : Builder NodeId :=
  match n.field? "name", n.field? "alias" with
  | some name, some rename => do
    let imported ← l.exportName name
    let binding ← l.identifier rename
    emit (.importSpecifier imported binding) n
  | some name, none => do
    let imported ← l.exportName name
    emit (.importSpecifier imported imported) n
  | none, _ => do
    let imported ← leaf n
    emit (.importSpecifier imported imported) n

def importPart (l : Lowerer) (n : Concrete) : Builder NodeId :=
  match n.kind with
  | "identifier" => do
    let binding ← l.identifier n
    emit (.importDefaultSpecifier binding) n
  | "namespace_import" => l.namespaceImport n
  | _ => l.importMember n

def importStatement (l : Lowerer) (n : Concrete) : Builder NodeId :=
  match n.field? "source" with
  | none => leaf n
  | some path => do
    let specifiers ← (importParts n).mapM l.importPart
    let kind := if n.hasMark "type" then ImportKind.type else .value
    emit (.importDeclaration specifiers (unquote (l.text path)) kind) n

def exportMember (l : Lowerer) (n : Concrete) : Builder NodeId := do
  let origin ← match n.field? "name" with
    | some name => l.exportName name
    | none => leaf n
  let exported ← match n.field? "alias" with
    | some rename => l.exportName rename
    | none => pure origin
  emit (.exportSpecifier origin exported) n

def exportNamespace (l : Lowerer) (n : Concrete) : Builder (Option NodeId) :=
  match (n.partsOf "namespace_export").head?.bind (·.parts.head?) with
  | some name => some <$> l.exportName name
  | none => pure none

/-- A declaration is looked for first, then a list of names, then a module path. -/
def exportStatement (l : Lowerer) (n : Concrete) : Builder NodeId :=
  let source := (n.field? "source").map fun path => unquote (l.text path)
  match n.field? "declaration", n.partsOf "export_clause", source with
  | some child, _, _ => do
    let declaration ← l.lower child
    emit (.exportNamedDeclaration (some declaration) [] none) n
  | none, clause :: _, source => do
    let specifiers ← (clause.partsOf "export_specifier").mapM l.exportMember
    emit (.exportNamedDeclaration none specifiers source) n
  | none, [], some source => do
    let exported ← l.exportNamespace n
    emit (.exportAllDeclaration exported source) n
  | none, [], none => l.generic n

end ScriptLint.Lowerer
