import ScriptLint.Command.Arguments
import ScriptLint.Command.Output
import ScriptLint.Config.File
import ScriptLint.Diff
import ScriptLint.FileTree
import ScriptLint.Fix

/-!
The command: what it prints, how it ends, and which files it changes.
-/
namespace ScriptLint

inductive CommandError where
  | usage
  | unknownRule (name : String)
  | needsPaths
  | unreadableConfig (path : Path) (cause : FileError)
  | invalidConfig (path : Path) (cause : ConfigError)
  | lint (cause : LintError)
  | missing (path : Path) (cause : FileError)
  | unwalked (path : Path) (cause : FileError)
  | unreadable (path : Path) (cause : FileError)
  | unlinted (path : Path) (cause : LintError)
  | file (cause : FileError)
  | fix (cause : Fix.Failure)
  deriving DecidableEq, Repr

namespace CommandError

def message : CommandError → Text
  | usage => "usage".toList
  | unknownRule name => s!"unknown lint: {name}".toList
  | needsPaths => "--fix requires file paths (stdin not supported)".toList
  | unreadableConfig path cause =>
    "failed to read config file: ".toList ++ Text.shown path ++ s!": {cause.message}".toList
  | invalidConfig path .malformed => "failed to parse config file: ".toList ++ Text.shown path
  | invalidConfig path cause =>
    "invalid config file: ".toList ++ Text.shown path ++ s!": {cause.message}".toList
  | lint cause => cause.message.toList
  | missing path cause =>
    "cannot read ".toList ++ Text.shown path ++ s!": {cause.message}".toList
  | unwalked path cause =>
    "IO error for operation on ".toList ++ Text.shown path ++
      s!": {cause.message}: {cause.message}".toList
  | unreadable path cause =>
    "failed to read ".toList ++ Text.shown path ++ s!": {cause.message}".toList
  | unlinted path cause =>
    "failed to lint ".toList ++ Text.shown path ++ s!": {cause.message}".toList
  | file cause => cause.message.toList
  | fix cause => cause.message.toList

end CommandError

structure World where
  files : FileTree
  input : ByteArray
  grammar : Grammar

structure Outcome where
  exit : Nat
  output : Text
  failure : Option CommandError
  files : FileTree

namespace Command

def configName : Name := Text.bytes "sequence-lint.toml".toList

/-- A directory and those above it, as far as the path tells; `depth` bounds their number. -/
def withParents : Nat → Path → List Path
  | 0, dir => [dir]
  | depth + 1, dir => dir :: match dir.parent? with
    | some parent => withParents depth parent
    | none => []

def startDir (files : FileTree) (paths : List Path) : Path :=
  match paths with
  | [] => Path.ofNames files.base
  | p :: _ => if files.isFile p then p.parent?.getD [Path.dot] else p

def findConfig? (files : FileTree) (dir : Path) : Option Path :=
  ((withParents (dir.length + 1) dir).map (Path.join · configName)).find? files.isFile

def readConfig (files : FileTree) (p : Path) : Except CommandError Config :=
  match files.readText p with
  | .error cause => .error (.unreadableConfig p cause)
  | .ok text => match Config.ofText text with
    | .error cause => .error (.invalidConfig p cause)
    | .ok config => .ok config

def loadConfig (files : FileTree) (r : LintRequest) : Except CommandError Config :=
  match r.config with
  | some p => readConfig files p
  | none => match findConfig? files (startDir files r.paths) with
    | some p => readConfig files p
    | none => .ok {}

def linter (files : FileTree) (r : LintRequest) : Except CommandError Linter :=
  match loadConfig files r with
  | .error e => .error e
  | .ok config =>
    let selection : Selection := ⟨r.only, r.skip, config.disabled⟩
    match selection.rules config.rules (config.verbosity?.any (·.showsDetail)) with
    | .error cause => .error (.lint cause)
    | .ok rules => .ok ⟨rules, config.settings, config.globals⟩

def sourceExtensions : List Name :=
  ["ts", "tsx", "mts", "cts", "js", "jsx", "mjs", "cjs"].map fun s => Text.bytes s.toList

def skippedDirectories : List Name :=
  ["node_modules", ".git", "target", "dist", "build"].map fun s => Text.bytes s.toList

mutual
def sources (p : Path) : Entry → Except CommandError (List Path)
  | .file _ => .ok (if p.extension?.any sourceExtensions.contains then [p] else [])
  | .link _ => .ok []
  | .directory entries =>
    if FileTree.maxPathSize < p.length then .error (.unwalked p .nameTooLong)
    else sourcesIn p entries

def sourcesIn (p : Path) : List (Name × Entry) → Except CommandError (List Path)
  | [] => .ok []
  | (name, entry) :: entries =>
    if entry.isDirectory && skippedDirectories.contains name then sourcesIn p entries
    else match sources (p.join name) entry with
      | .error e => .error e
      | .ok found => (sourcesIn p entries).map (found ++ ·)
end

def expand (files : FileTree) (p : Path) : Except CommandError (List Path) :=
  match files.resolve p with
  | .error cause => .error (.missing p cause)
  | .ok (.vacant _) => .error (.missing p .notFound)
  | .ok (.file _ _) => .ok [p]
  | .ok (.directory names) => match files.find? names with
    | some (.directory entries) => sourcesIn p entries
    | _ => .ok []

def collect (files : FileTree) (paths : List Path) : Except CommandError (List Path) :=
  match paths.mapM (expand files) with
  | .error e => .error e
  | .ok found => .ok (Path.sortUnique found.flatten)

def lintFile (l : Linter) (w : World) (p : Path) : Except CommandError (List Located) :=
  match w.files.readText p with
  | .error cause => .error (.unreadable p cause)
  | .ok text => match l.lint w.grammar (.ofPath p) text with
    | .error cause => .error (.unlinted p cause)
    | .ok found => .ok (found.map (⟨Text.shown p, ·⟩))

def lintInput (l : Linter) (w : World) : Except CommandError (List Located) :=
  match FileTree.decode w.input with
  | .error cause => .error (.file cause)
  | .ok text => match l.lint w.grammar .typeScript text with
    | .error cause => .error (.lint cause)
    | .ok found => .ok (found.map (⟨"stdin".toList, ·⟩))

def lintAll (w : World) (r : LintRequest) : Except CommandError (List Located) :=
  match linter w.files r with
  | .error e => .error e
  | .ok l =>
    if r.paths.isEmpty then lintInput l w
    else match collect w.files r.paths with
      | .error e => .error e
      | .ok paths => (paths.mapM (lintFile l w)).map List.flatten

def render (r : LintRequest) (found : List Located) : Text :=
  match r.format.getD .pretty with
  | .pretty => Output.pretty found
  | .json => Output.json found
  | .github => Output.github r.denyWarnings found

def fails (r : LintRequest) (found : List Located) : Bool :=
  found.any (·.diagnostic.level == .error) || (r.denyWarnings && !found.isEmpty)

def maxRounds : Nat := 10

structure FixRun where
  files : FileTree
  output : Text := []
  fixed : Nat := 0
  skipped : Nat := 0
  changed : Nat := 0

/-- The path of the backup. Its name has the extension as it is shown. -/
def backupPath (p : Path) : Path :=
  p.withExtension (Text.bytes (Text.shown (p.extension?.getD []) ++ ".bak".toList))

def store (r : LintRequest) (files : FileTree) (p : Path) (before after : Text) :
    Except FileError FileTree :=
  if r.noBackup then files.writeText p after
  else match files.writeText (backupPath p) before with
    | .error cause => .error cause
    | .ok files => files.writeText p after

def leftOver (rounds : List Fix.Round) : Nat :=
  match rounds.getLast? with
  | some round => if round.result.applied = 0 then round.result.skipped else 0
  | none => 0

def fixFile (l : Linter) (grammar : Grammar) (r : LintRequest) (s : FixRun) (p : Path) :
    Except CommandError FixRun :=
  match s.files.readText p with
  | .error cause => .error (.file cause)
  | .ok text =>
    match Fix.rounds (l.lint grammar (.ofPath p)) r.riskyFixes maxRounds text with
    | (_, some cause) => .error (.fix cause)
    | (rounds, none) =>
      let fixed := rounds.foldl (· + ·.result.applied) 0
      let skipped := s.skipped + leftOver rounds
      let after := Fix.finalText text rounds
      if fixed = 0 then .ok { s with skipped }
      else if r.fixDryRun then
        let diff := Diff.render Diff.defaultContext text after (Text.shown p)
        let output := if diff.isEmpty then s.output else s.output ++ Output.line diff
        .ok { s with output, skipped, fixed := s.fixed + fixed }
      else match store r s.files p text after with
        | .error cause => .error (.file cause)
        | .ok files =>
          .ok { s with files, skipped, fixed := s.fixed + fixed, changed := s.changed + 1 }

/-- Apply fixes to the files in turn. The first failure ends the run. -/
def fixFiles (l : Linter) (grammar : Grammar) (r : LintRequest) :
    FixRun → List Path → FixRun × Option CommandError
  | s, [] => (s, none)
  | s, p :: ps => match fixFile l grammar r s p with
    | .error e => (s, some e)
    | .ok s => fixFiles l grammar r s ps

def summary (r : LintRequest) (s : FixRun) (fileCount : Nat) : Text :=
  let done := if r.fixDryRun then
      s!"\n{s.fixed} fix(es) would be applied to {fileCount} file(s)"
    else s!"Applied {s.fixed} fix(es) to {s.changed} file(s)"
  let left := if s.skipped = 0 then []
    else Output.line s!"{s.skipped} fix(es) skipped (use --unsafe-fixes to apply renames)".toList
  Output.line done.toList ++ left

def failed (files : FileTree) (output : Text) (e : CommandError) : Outcome :=
  ⟨2, output, some e, files⟩

def runFix (w : World) (r : LintRequest) : Outcome :=
  if r.paths.isEmpty then failed w.files [] .needsPaths
  else match linter w.files r with
    | .error e => failed w.files [] e
    | .ok l => match collect w.files r.paths with
      | .error e => failed w.files [] e
      | .ok paths => match fixFiles l w.grammar r { files := w.files } paths with
        | (s, some e) => failed s.files s.output e
        | (s, none) => ⟨0, s.output ++ summary r s paths.length, none, s.files⟩

def runLint (w : World) (r : LintRequest) : Outcome :=
  if r.fix || r.fixDryRun then runFix w r
  else match lintAll w r with
    | .error e => failed w.files [] e
    | .ok found => ⟨if fails r found then 1 else 0, render r found, none, w.files⟩

def readsInput (arguments : List Argument) : Bool :=
  match Request.ofArguments? arguments with
  | some (.lint r) => r.paths.isEmpty && !r.fix && !r.fixDryRun
  | _ => false

def run (w : World) (arguments : List Argument) : Outcome :=
  match Request.ofArguments? arguments with
  | none => failed w.files [] .usage
  | some .version => ⟨0, Output.version, none, w.files⟩
  | some (.help page) => ⟨0, Output.help page, none, w.files⟩
  | some .listRules => ⟨0, Output.rules, none, w.files⟩
  | some (.explain name) => match Lint.ofName? name with
    | some lint => ⟨0, Output.explanation lint, none, w.files⟩
    | none => failed w.files [] (.unknownRule name)
  | some (.lint r) => runLint w r

end Command

end ScriptLint
