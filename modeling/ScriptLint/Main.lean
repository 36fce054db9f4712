import ScriptLint.Command.Run
import ScriptLint.Syntax.Listing

/-!
The command line. It reads what the command may look at, runs the command, prints what it says and
writes the files that it changed.

The files below the current directory are read, those that the arguments name, and the
configurations in the directories above them.
-/
namespace ScriptLint

def bytesOf (s : String) : List UInt8 := Text.bytes s.toList

def namesOf (path : String) : List Name :=
  (Path.parts (bytesOf path)).filter (!Path.isVoid ·)

def pathOf (names : List Name) : String := String.ofList (Text.shown (Path.ofNames names))

/-- An entry of a directory with all that is below it. A link leads to where it ends. -/
partial def readEntry (entry : IO.FS.DirEntry) : IO (Name × Entry) := do
  let name := bytesOf entry.fileName
  match (← entry.path.symlinkMetadata).type with
  | .dir => return (name, .directory (← (← entry.path.readDir).toList.mapM readEntry))
  | .symlink => return (name, .link (bytesOf (← IO.FS.realPath entry.path).toString))
  | _ => return (name, .file (← IO.FS.readBinFile entry.path))

def addConfigs (t : FileTree) (names : List Name) : IO FileTree :=
  (List.range (names.length + 1)).foldlM (fun t depth => do
    let config := names.take depth ++ [Command.configName]
    try return t.put config (.file (← IO.FS.readBinFile (pathOf config)))
    catch _ => return t) t

def addPath (t : FileTree) (path : String) : IO FileTree := do
  try
    let place ← IO.FS.realPath path
    let names := namesOf place.toString
    let found : Entry ← if ← place.isDir
      then pure (.directory (← (← place.readDir).toList.mapM readEntry))
      else pure (.file (← IO.FS.readBinFile place))
    addConfigs (t.put names found) names.dropLast
  catch _ => return t

def readFiles (arguments : List Argument) : IO FileTree := do
  let base := namesOf (← IO.currentDir).toString
  let named := match Request.ofArguments? arguments with
    | some (.lint r) => r.paths ++ r.config.toList
    | _ => []
  let paths := named.map fun path => String.ofList (Text.shown path)
  (paths ++ ["."]).foldlM addPath { base }

def readInput (arguments : List Argument) : IO ByteArray := do
  if Command.readsInput arguments then (← IO.getStdin).readBinToEnd
  else return .empty

def writeChanges (before after : FileTree) : IO Unit := do
  for (names, content) in after.files do
    if before.content? names != some content then
      IO.FS.writeBinFile (pathOf names) content

end ScriptLint

open ScriptLint

def main (args : List String) : IO UInt32 := do
  let arguments := args.map bytesOf
  let files ← readFiles arguments
  let input ← readInput arguments
  let outcome := Command.run ⟨files, input, Listing.grammar files⟩ arguments
  IO.print (String.ofList outcome.output)
  if let some failure := outcome.failure then
    IO.eprintln (String.ofList failure.message)
  writeChanges files outcome.files
  return outcome.exit.toUInt32
