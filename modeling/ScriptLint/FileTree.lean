import ScriptLint.Path

/-!
Files, directories and links, and what a path leads to.

An absolute path starts at the root of the tree, any other path at its base. Links are followed
wherever they stand in a path, as many as one path may have.
-/
namespace ScriptLint

inductive Entry where
  | file (content : ByteArray)
  | link (target : Path)
  | directory (entries : List (Name × Entry))

inductive FileError where
  | notFound
  | notADirectory
  | isADirectory
  | nameTooLong
  | tooManyLinks
  | notText
  deriving DecidableEq, Repr

def FileError.message : FileError → String
  | notFound => "No such file or directory (os error 2)"
  | notADirectory => "Not a directory (os error 20)"
  | isADirectory => "Is a directory (os error 21)"
  | nameTooLong => "File name too long (os error 36)"
  | tooManyLinks => "Too many levels of symbolic links (os error 40)"
  | notText => "stream did not contain valid UTF-8"

namespace Entry

def isDirectory : Entry → Bool
  | directory _ => true
  | _ => false

def surface : Entry → Entry
  | directory _ => directory []
  | entry => entry

def find? : Entry → List Name → Option Entry
  | entry, [] => some entry
  | directory entries, name :: names => (entries.lookup name).bind fun entry => find? entry names
  | _, _ :: _ => none

def insert (name : Name) (entry : Entry) : List (Name × Entry) → List (Name × Entry)
  | [] => [(name, entry)]
  | other :: entries =>
    if other.1 = name then (name, entry) :: entries else other :: insert name entry entries

def put (new : Entry) : List Name → Entry → Entry
  | [], _ => new
  | name :: names, directory entries =>
    directory (insert name (put new names ((entries.lookup name).getD (directory []))) entries)
  | _ :: _, entry => entry

mutual
def files (above : List Name) : Entry → List (List Name × ByteArray)
  | file content => [(above, content)]
  | link _ => []
  | directory entries => filesIn above entries

def filesIn (above : List Name) : List (Name × Entry) → List (List Name × ByteArray)
  | [] => []
  | (name, entry) :: entries => files (above ++ [name]) entry ++ filesIn above entries
end

end Entry

/-- The entries of the root, and the names of the directory where relative paths start. -/
structure FileTree where
  entries : List (Name × Entry) := []
  base : List Name := []

/-- What a path leads to. A vacant place is a name in a directory that has no such entry. -/
inductive Target where
  | file (names : List Name) (content : ByteArray)
  | directory (names : List Name)
  | vacant (names : List Name)

/-- The way along a path: how many links may still be followed, and what is reached. -/
structure Walk where
  links : Nat
  place : Target

namespace FileTree

def find? (t : FileTree) (names : List Name) : Option Entry :=
  (Entry.directory t.entries).find? names

def look? (t : FileTree) (names : List Name) : Option Entry := (t.find? names).map Entry.surface

def content? (t : FileTree) (names : List Name) : Option ByteArray :=
  match t.look? names with
  | some (.file content) => some content
  | _ => none

def isDirectory (t : FileTree) (names : List Name) : Bool := (t.look? names).any Entry.isDirectory

def files (t : FileTree) : List (List Name × ByteArray) := Entry.filesIn [] t.entries

def maxNameSize : Nat := 255

def maxPathSize : Nat := 4095

def maxLinks : Nat := 40

def isLongName (name : Name) : Bool := maxNameSize < name.length

def follow (t : FileTree) (jump : Walk → Path → Except FileError Walk) (w : Walk) (piece : Name) :
    Except FileError Walk :=
  match w.place with
  | .file _ _ => .error .notADirectory
  | .vacant _ => .error .notFound
  | .directory names =>
    if Path.isVoid piece then .ok w
    else if isLongName piece then .error .nameTooLong
    else if piece = Path.up then .ok { w with place := .directory names.dropLast }
    else match t.look? (names ++ [piece]) with
      | none => .ok { w with place := .vacant (names ++ [piece]) }
      | some (.file content) => .ok { w with place := .file (names ++ [piece]) content }
      | some (.directory _) => .ok { w with place := .directory (names ++ [piece]) }
      | some (.link target) =>
        if w.links = 0 then .error .tooManyLinks
        else jump ⟨w.links - 1, .directory (if target.isAbsolute then [] else names)⟩ target

def walk (t : FileTree) : Nat → Walk → Path → Except FileError Walk
  | 0, _, _ => .error .tooManyLinks
  | depth + 1, w, p =>
    if p.isEmpty then .error .notFound else p.parts.foldlM (t.follow (walk t depth)) w

def start (t : FileTree) (p : Path) : List Name := if p.isAbsolute then [] else t.base

def resolve (t : FileTree) (p : Path) : Except FileError Target :=
  if maxPathSize < p.length then .error .nameTooLong
  else if !t.isDirectory (t.start p) then .error .notFound
  else match t.walk (maxLinks + 1) ⟨maxLinks, .directory (t.start p)⟩ p with
    | .ok w => .ok w.place
    | .error e => .error e

def isFile (t : FileTree) (p : Path) : Bool :=
  match t.resolve p with
  | .ok (.file _ _) => true
  | _ => false

def decode (content : ByteArray) : Except FileError Text :=
  match String.fromUTF8? content with
  | some s => .ok s.toList
  | none => .error .notText

def readText (t : FileTree) (p : Path) : Except FileError Text :=
  match t.resolve p with
  | .error e => .error e
  | .ok (.vacant _) => .error .notFound
  | .ok (.directory _) => .error .isADirectory
  | .ok (.file _ content) => decode content

def put (t : FileTree) (names : List Name) (new : Entry) : FileTree :=
  match Entry.put new names (.directory t.entries) with
  | .directory entries => { t with entries }
  | _ => t

def writeText (t : FileTree) (p : Path) (text : Text) : Except FileError FileTree :=
  let new : Entry := .file (String.ofList text).toUTF8
  match t.resolve p with
  | .error e => .error e
  | .ok (.directory _) => .error .isADirectory
  | .ok (.file names _) | .ok (.vacant names) => .ok (t.put names new)

end FileTree

end ScriptLint
