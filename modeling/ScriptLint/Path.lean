import ScriptLint.Collation
import ScriptLint.Syntax.Concrete
import ScriptLint.Text.Utf8

/-!
Paths of files.

A path is made of bytes, which need not be a text, and its pieces are divided by slashes. Empty
pieces and pieces `.` mean nothing, except at the front: an empty first piece makes the path start
at the root, and a first piece `.` is kept.
-/
namespace ScriptLint

abbrev Name := List UInt8

abbrev Path := List UInt8

namespace Path

def slash : UInt8 := 47

def dot : UInt8 := 46

def up : Name := [dot, dot]

def isVoid (piece : Name) : Bool := piece.isEmpty || piece == [dot]

def parts (p : Path) : List Name := p.splitOn slash

def pieces (p : Path) : List Name :=
  match p.parts with
  | [] => []
  | first :: rest => first :: rest.filter (!isVoid ·)

/-- The pieces up to the last one that means something, with all pieces before it. -/
def fullPieces (p : Path) : List Name :=
  match p.parts with
  | [] => []
  | first :: rest => first :: (rest.reverse.dropWhile isVoid).reverse

def isAbsolute (p : Path) : Bool := p.head? == some slash

/-- The path of pieces; the lone first piece of an absolute path is the root. -/
def ofPieces (isAbsolute : Bool) : List Name → Path
  | [[]] => if isAbsolute then [slash] else []
  | pieces => [slash].intercalate pieces

def ofNames (names : List Name) : Path := ofPieces true ([] :: names)

def parent? (p : Path) : Option Path :=
  match p.fullPieces.reverse with
  | [] => none
  | [first] => if first.isEmpty then none else some []
  | _ :: before => some (ofPieces p.isAbsolute (fullPieces (ofPieces p.isAbsolute before.reverse)))

def fileName? (p : Path) : Option Name :=
  match p.pieces.getLast? with
  | some piece => if isVoid piece || piece == up then none else some piece
  | none => none

/-- A name divided at its last dot, unless that is at the front. -/
def splitName (name : Name) : Name × Option Name :=
  let extension := (name.reverse.takeWhile (· != dot)).reverse
  match (name.reverse.dropWhile (· != dot)).reverse.dropLast with
  | [] => (name, none)
  | stem => (stem, some extension)

def extension? (p : Path) : Option Name := p.fileName?.bind fun name => (splitName name).2

def withExtension (p : Path) (extension : Name) : Path :=
  match p.fileName? with
  | none => p
  | some name =>
    let renamed := (splitName name).1 ++ (if extension.isEmpty then [] else dot :: extension)
    ofPieces p.isAbsolute (p.fullPieces.dropLast ++ [renamed])

def join (dir : Path) (name : Name) : Path :=
  if dir.isEmpty || dir.getLast? == some slash then dir ++ name else dir ++ slash :: name

def rank (first : Bool) (piece : Name) : Nat :=
  if first && piece.isEmpty then 0
  else if first && piece == [dot] then 1
  else if piece == up then 2
  else 3

def orderKey (p : Path) : List (Nat × Name) :=
  if p.isEmpty then []
  else p.pieces.zipIdx.map fun (piece, i) => (rank (i == 0) piece, piece)

def compareKeys : List (Nat × Name) → List (Nat × Name) → Ordering
  | [], [] => .eq
  | [], _ :: _ => .lt
  | _ :: _, [] => .gt
  | (m, a) :: as, (n, b) :: bs =>
    (compare m n).then ((Collation.plain a b).then (compareKeys as bs))

protected def compare (p q : Path) : Ordering := compareKeys p.orderKey q.orderKey

def dropRepeats : List Path → List Path
  | p :: q :: ps =>
    if p.compare q = .eq then dropRepeats (p :: ps) else p :: dropRepeats (q :: ps)
  | ps => ps

def sortUnique (ps : List Path) : List Path :=
  dropRepeats (ps.mergeSort fun p q => p.compare q != .gt)

end Path

def Dialect.ofPath (p : Path) : Dialect :=
  match p.extension?.bind Text.ofBytes? with
  | some ['t', 's', 'x'] | some ['j', 's', 'x'] => .tsx
  | _ => .typeScript

end ScriptLint
