import ScriptLint.Path

/-!
The arguments of the command.

A request names a command first, or else asks for files to be linted. Options may stand anywhere
among the paths, and after `--` everything is a path. Paths may be any bytes, all else is text.
-/
namespace ScriptLint

abbrev Argument := List UInt8

inductive OutputFormat where
  | pretty
  | json
  | github
  deriving DecidableEq, Repr

def OutputFormat.ofName? : String → Option OutputFormat
  | "pretty" => some .pretty
  | "json" => some .json
  | "github" => some .github
  | _ => none

structure LintRequest where
  paths : List Path := []
  format : Option OutputFormat := none
  only : List String := []
  skip : List String := []
  config : Option Path := none
  denyWarnings : Bool := false
  fix : Bool := false
  fixDryRun : Bool := false
  riskyFixes : Bool := false
  noBackup : Bool := false
  deriving DecidableEq, Repr

inductive HelpPage where
  | all
  | lint
  | listRules
  | explain
  | help
  deriving DecidableEq, Repr

inductive Request where
  | lint (r : LintRequest)
  | listRules
  | explain (rule : String)
  | version
  | help (page : HelpPage)
  deriving DecidableEq, Repr

namespace LintRequest

def setFlag? (r : LintRequest) : String → Option LintRequest
  | "--deny-warnings" => if r.denyWarnings then none else some { r with denyWarnings := true }
  | "--fix" => if r.fix then none else some { r with fix := true }
  | "--fix-dry-run" => if r.fixDryRun then none else some { r with fixDryRun := true }
  | "--unsafe-fixes" => if r.riskyFixes then none else some { r with riskyFixes := true }
  | "--no-backup" => if r.noBackup then none else some { r with noBackup := true }
  | _ => none

def takesValue (option : String) : Bool :=
  option == "--format" || option == "--only" || option == "--skip" || option == "--config"

def names? (value : Argument) : Option (List String) :=
  (Text.ofBytes? value).map fun value => (Text.splitOn ',' value).map String.ofList

/-- Give an option its value. The lists of names grow; the other options are given once. -/
def setOption? (r : LintRequest) (option : String) (value : Argument) : Option LintRequest :=
  match option with
  | "--format" =>
    match r.format, ((Text.ofBytes? value).map String.ofList).bind OutputFormat.ofName? with
    | none, some format => some { r with format := some format }
    | _, _ => none
  | "--only" => (names? value).map fun names => { r with only := r.only ++ names }
  | "--skip" => (names? value).map fun names => { r with skip := r.skip ++ names }
  | "--config" =>
    if r.config.isSome || value.isEmpty then none else some { r with config := some value }
  | _ => none

def addPath? (r : LintRequest) (path : Path) : Option LintRequest :=
  if path.isEmpty then none else some { r with paths := r.paths ++ [path] }

end LintRequest

namespace Request

def dash : UInt8 := 45

def equals : UInt8 := 61

def escape : Argument := [dash, dash]

def looksLikeOption (argument : Argument) : Bool :=
  argument.head? == some dash && 1 < argument.length

def isHelp (argument : Argument) : Bool :=
  argument = Text.bytes "--help".toList || (Text.bytes "-h".toList).isPrefixOf argument

def isVersion (argument : Argument) : Bool :=
  argument = Text.bytes "--version".toList || (Text.bytes "-V".toList).isPrefixOf argument

def lintArguments? (topLevel : Bool) : LintRequest → List Argument → Option Request
  | r, [] => if r.fix && r.fixDryRun then none else some (.lint r)
  | r, argument :: arguments =>
    if argument = escape then
      match arguments.foldlM LintRequest.addPath? r with
      | some r => if r.fix && r.fixDryRun then none else some (.lint r)
      | none => none
    else if !looksLikeOption argument then
      match r.addPath? argument with
      | some r => lintArguments? topLevel r arguments
      | none => none
    else if isHelp argument then some (.help (if topLevel then .all else .lint))
    else if topLevel && isVersion argument then some .version
    else match Text.ofBytes? (argument.takeWhile (· != equals)) with
      | none => none
      | some option =>
        if LintRequest.takesValue (String.ofList option) then
          match argument.dropWhile (· != equals), arguments with
          | _ :: value, arguments => match r.setOption? (String.ofList option) value with
            | some r => lintArguments? topLevel r arguments
            | none => none
          | [], value :: arguments =>
            if looksLikeOption value then none
            else match r.setOption? (String.ofList option) value with
              | some r => lintArguments? topLevel r arguments
              | none => none
          | [], [] => none
        else match ((Text.ofBytes? argument).map String.ofList).bind r.setFlag? with
          | some r => lintArguments? topLevel r arguments
          | none => none

/-- What the arguments ask for after a command that has no options of its own. It takes at most
`limit` values. -/
def plainArguments? (page : HelpPage) (limit : Nat) (ask : List Argument → Option Request) :
    List Argument → List Argument → Option Request
  | values, [] => ask values
  | values, argument :: arguments =>
    if argument = escape then ask (values ++ arguments)
    else if looksLikeOption argument then
      if isHelp argument then some (.help page) else none
    else if values.length < limit then
      plainArguments? page limit ask (values ++ [argument]) arguments
    else none

def explain? : List Argument → Option Request
  | [rule] => (Text.ofBytes? rule).map fun rule => .explain (String.ofList rule)
  | _ => none

def listRules? (values : List Argument) : Option Request :=
  if values.isEmpty then some .listRules else none

def helpPage? : List String → Option HelpPage
  | [] => some .all
  | ["lint"] => some .lint
  | ["list-rules"] => some .listRules
  | ["explain"] => some .explain
  | ["help"] => some .help
  | _ => none

def ofArguments? (arguments : List Argument) : Option Request :=
  match arguments with
  | [] => some (.lint {})
  | first :: rest => match (Text.ofBytes? first).map String.ofList with
    | some "lint" => lintArguments? false {} rest
    | some "list-rules" => plainArguments? .listRules 0 listRules? [] rest
    | some "explain" => plainArguments? .explain 1 explain? [] rest
    | some "help" =>
      match rest.mapM Text.ofBytes? with
      | some names => (helpPage? (names.map String.ofList)).map .help
      | none => none
    | _ => lintArguments? true {} (first :: rest)

end Request

end ScriptLint
