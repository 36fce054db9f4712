import ScriptLint.FileTree
import ScriptLint.Text.Digits

/-!
Concrete trees in files.

A listing has the dialect in its first line and one node of the tree in each further line, in
pre-order: depth, symbol, start, stop, marks and field names, divided by tabs. The marks are
letters: `n` for a named symbol, `e` for an error, `m` for a missing symbol, `b` for a node with
something broken at it or below it. The file `name.tree` holds the tree for the text of the file `name`.
-/
namespace ScriptLint.Listing

def dialect? : Text → Option Dialect
  | ['t', 's'] => some .typeScript
  | ['t', 's', 'x'] => some .tsx
  | _ => none

def row? (line : Text) : Option Concrete.Row :=
  match Text.splitOn '\t' line with
  | [depth, kind, start, stop, marks, fields] => do
    let depth ← Text.number? 10 depth
    let start ← Text.number? 10 start
    let stop ← Text.number? 10 stop
    let names := if fields.isEmpty then [] else Text.splitOn ',' fields
    return ⟨depth,
      { kind := String.ofList kind
        span := ⟨start, stop⟩
        isNamed := marks.contains 'n'
        isError := marks.contains 'e'
        isMissing := marks.contains 'm'
        hasError := marks.contains 'b'
        fields := names.map String.ofList }⟩
  | _ => none

def parse? (t : Text) : Option (Dialect × Concrete) :=
  match (Text.splitOn '\n' t).filter (!·.isEmpty) with
  | [] => none
  | first :: lines => do
    let dialect ← dialect? first
    let tree ← Concrete.ofRows? (← lines.mapM row?)
    return (dialect, tree)

def subject? (name : Name) : Option Name :=
  match Path.splitName name with
  | (stem, some extension) => if extension = Text.bytes "tree".toList then some stem else none
  | _ => none

def entry? (files : FileTree) (names : List Name) : Option (Dialect × Text × Concrete) := do
  let name ← names.getLast?.bind subject?
  let listing ← (FileTree.decode (← files.content? names)).toOption
  let text ← (FileTree.decode (← files.content? (names.dropLast ++ [name]))).toOption
  let (dialect, tree) ← parse? listing
  return (dialect, text, tree)

def grammar (files : FileTree) : Grammar :=
  let entries := files.files.filterMap fun file => entry? files file.1
  fun dialect text => (entries.find? fun (d, t, _) => d == dialect && t == text).map (·.2.2)

end ScriptLint.Listing
