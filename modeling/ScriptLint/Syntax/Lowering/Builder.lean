import ScriptLint.Syntax.Concrete
import ScriptLint.Syntax.Tree

/-!
Building an abstract tree from a concrete one.

A builder appends nodes to the nodes built so far, so a node's number is the count of nodes before
it. The functions on single constructs take the function for whole subtrees as a parameter: a
`Lowerer` holds it together with the text.
-/
namespace ScriptLint

abbrev Builder := StateM (Array Node)

def Builder.push (kind : NodeKind) (span : Span) : Builder NodeId :=
  modifyGet fun nodes => (nodes.size, nodes.push ⟨kind, some span⟩)

structure Lowerer where
  source : Text
  /-- How a subtree is lowered. -/
  lower : Concrete → Builder NodeId

namespace Lowerer

def emit (kind : NodeKind) (n : Concrete) : Builder NodeId := Builder.push kind n.span

def leaf (n : Concrete) : Builder NodeId := emit (.other n.kind []) n

def text (l : Lowerer) (n : Concrete) : Text := l.source.slice n.span

def identifier (l : Lowerer) (n : Concrete) : Builder NodeId := emit (.identifier (l.text n)) n

def privateIdentifier (l : Lowerer) (n : Concrete) : Builder NodeId :=
  emit (.privateIdentifier ((l.text n).dropWhile (· == '#'))) n

def literal (l : Lowerer) (n : Concrete) : Builder NodeId := emit (.literal (l.text n)) n

def lowerAll (l : Lowerer) (ns : List Concrete) : Builder (List NodeId) := ns.mapM l.lower

def lowerOption (l : Lowerer) : Option Concrete → Builder (Option NodeId)
  | some n => some <$> l.lower n
  | none => pure none

/-- A missing field is a leaf over the whole node. -/
def lowerField (l : Lowerer) (n : Concrete) (field : String) : Builder NodeId :=
  match n.field? field with
  | some child => l.lower child
  | none => leaf n

def lowerFirst (l : Lowerer) (n : Concrete) : Builder NodeId :=
  match n.parts with
  | child :: _ => l.lower child
  | [] => leaf n

def generic (l : Lowerer) (n : Concrete) : Builder NodeId := do
  let children ← l.lowerAll n.parts
  emit (.other n.kind children) n

def identifierField (l : Lowerer) (n : Concrete) (field : String) : Builder (Option NodeId) :=
  match n.field? field with
  | some child => some <$> l.identifier child
  | none => pure none

def fieldKind (n : Concrete) (field : String) : String := ((n.field? field).map (·.kind)).getD ""

def exportName (l : Lowerer) (n : Concrete) : Builder NodeId :=
  if n.kind == "string" then l.literal n else l.identifier n

def unquote (raw : Text) : Text :=
  let between (quote : Char) : Option Text :=
    (Text.stripPrefix? [quote] raw).bind (Text.stripSuffix? [quote])
  (['\x22', '\x27', '\x60'].findSome? between).getD raw

def key (l : Lowerer) (n : Concrete) : Builder (NodeId × Bool) :=
  match n.kind with
  | "property_identifier" | "identifier" | "shorthand_property_identifier" =>
    (·, false) <$> l.identifier n
  | "private_property_identifier" => (·, false) <$> l.privateIdentifier n
  | "string" | "number" => (·, false) <$> l.literal n
  | "computed_property_name" => (·, true) <$> l.lowerFirst n
  | _ => (·, false) <$> leaf n

end Lowerer

end ScriptLint
