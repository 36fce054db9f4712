import ScriptLint.Text.Basic

/-!
Concrete syntax trees, as a grammar produces them for a text.

A node knows its symbol, its place in the text, whether the symbol is named, whether something went
wrong at it or below it, and under which field names its parent finds it. A tree is read from the
list of its nodes in pre-order.
-/
namespace ScriptLint

structure ConcreteInfo where
  kind : String
  span : Span
  isNamed : Bool
  isError : Bool
  isMissing : Bool
  hasError : Bool
  fields : List String
  deriving DecidableEq, Repr

inductive Concrete where
  | node (info : ConcreteInfo) (children : List Concrete)

namespace Concrete

def info : Concrete → ConcreteInfo
  | node info _ => info

def children : Concrete → List Concrete
  | node _ children => children

def kind (n : Concrete) : String := n.info.kind

def span (n : Concrete) : Span := n.info.span

mutual
def height : Concrete → Nat
  | node _ children => heightOf children + 1

def heightOf : List Concrete → Nat
  | [] => 0
  | n :: ns => max (height n) (heightOf ns)
end

structure Row where
  depth : Nat
  info : ConcreteInfo

/-- Put a node in front of the finished trees, with the deeper ones among them as its children. -/
def attach (row : Row) (trees : List (Nat × Concrete)) : List (Nat × Concrete) :=
  let isBelow (tree : Nat × Concrete) : Bool := row.depth < tree.1
  (row.depth, node row.info ((trees.takeWhile isBelow).map Prod.snd)) :: trees.dropWhile isBelow

def ofRows? (rows : List Row) : Option Concrete :=
  match rows.foldr attach [] with
  | [(_, tree)] => some tree
  | _ => none

def field? (name : String) (n : Concrete) : Option Concrete :=
  n.children.find? fun child => child.info.fields.contains name

def isTrivia (n : Concrete) : Bool :=
  n.kind == "comment" || n.kind == "html_comment" || n.kind == "hash_bang_line"

def parts (n : Concrete) : List Concrete :=
  n.children.filter fun child => child.info.isNamed && !child.isTrivia

def partsBesides (name : String) (n : Concrete) : List Concrete :=
  (n.children.eraseP fun child => child.info.fields.contains name).filter fun child =>
    child.info.isNamed && !child.isTrivia

def partsOf (kind : String) (n : Concrete) : List Concrete :=
  n.parts.filter fun child => child.kind == kind

def hasMark (mark : String) (n : Concrete) : Bool :=
  n.children.any fun child => !child.info.isNamed && child.kind == mark

mutual
/-- Offset of the first broken node. Only children that are marked as broken are looked into. -/
def firstError? : Concrete → Option Nat
  | node info children =>
    if info.isError || info.isMissing then some info.span.start else firstErrorIn? children

def firstErrorIn? : List Concrete → Option Nat
  | [] => none
  | n :: ns =>
    if n.info.hasError then
      match firstError? n with
      | some offset => some offset
      | none => firstErrorIn? ns
    else firstErrorIn? ns
end

def rowOf : Nat → Text → Nat
  | 0, _ => 0
  | _ + 1, [] => 0
  | n + 1, c :: t => (if c = '\n' then 1 else 0) + rowOf (n + 1 - c.utf8Size) t

def firstErrorLine? (text : Text) (n : Concrete) : Option Nat :=
  (firstError? n).map fun offset => rowOf offset text + 1

end Concrete

inductive Dialect where
  | typeScript
  | tsx
  deriving DecidableEq, Repr

abbrev Grammar := Dialect → Text → Option Concrete

end ScriptLint
