import ScriptLint.Collation
import ScriptLint.Command.Arguments
import ScriptLint.Lint.Diagnostic
import ScriptLint.Text.Digits

/-!
What the command prints.
-/
namespace ScriptLint

structure Located where
  file : Text
  diagnostic : Diagnostic
  deriving DecidableEq, Repr

namespace Output

def line (t : Text) : Text := t ++ ['\n']

def rules : Text :=
  (Lint.all.mergeSort fun a b => a.name ≤ b.name).flatMap fun lint =>
    let fix := if lint.fix.isAvailable then s!" [fix: {lint.fix.safety}]" else ""
    line s!"{lint.name}\t{lint.category.label}\t{lint.description}{fix}".toList

def explanation (lint : Lint) : Text :=
  let fix := if lint.fix.isAvailable then
      [s!"fix: available ({lint.fix.safety})", s!"fix description: {lint.fix.description}"]
    else ["fix: not available"]
  let head := [s!"name: {lint.name}", s!"category: {lint.category.label}",
    s!"description: {lint.description}"]
  let messages := lint.messages.map fun (id, template) => s!"  {id}: {template}"
  (head ++ fix ++ ["messages:"] ++ messages).flatMap fun s => line s.toList

def pretty (found : List Located) : Text :=
  (found.flatMap fun ⟨file, d⟩ =>
    let place := s!":{d.start.row}:{d.start.column}: {d.level.label}: {d.lint.name}: ".toList
    line (file ++ place ++ d.message) ++ match d.help with
      | some help => line ("  help: ".toList ++ help)
      | none => []) ++
  line (Text.ofNat found.length ++ " diagnostic(s)".toList)

def hexDigit (n : Nat) : Char := Char.ofNat (if n < 10 then '0'.toNat + n else 'a'.toNat + n - 10)

def quoteChar (c : Char) : Text :=
  match c with
  | '\x22' => ['\\', '\x22']
  | '\\' => ['\\', '\\']
  | '\x08' => ['\\', 'b']
  | '\x0c' => ['\\', 'f']
  | '\n' => ['\\', 'n']
  | '\r' => ['\\', 'r']
  | '\t' => ['\\', 't']
  | c =>
    if c.toNat < 0x20 then "\\u00".toList ++ [hexDigit (c.toNat / 16), hexDigit (c.toNat % 16)]
    else [c]

def quote (t : Text) : Text := '\x22' :: t.flatMap quoteChar ++ ['\x22']

def jsonEntry (l : Located) : Text :=
  let d := l.diagnostic
  let fields : List (String × Text) := [
    ("file", quote l.file),
    ("row", Text.ofNat d.start.row),
    ("column", Text.ofNat d.start.column),
    ("level", quote d.level.label.toList),
    ("lint", quote d.lint.name.toList),
    ("message_id", quote d.messageId.toList),
    ("message", quote d.message),
    ("fixable", (if d.suggestion.isSome then "true" else "false").toList)]
  let entries := fields.map fun (key, value) =>
    "    ".toList ++ quote key.toList ++ [':', ' '] ++ value
  "  \x7b\n".toList ++ Text.joinWith [',', '\n'] entries ++ "\n  \x7d".toList

def compareEntries (a b : Located) : Ordering :=
  (Collation.plain a.file.bytes b.file.bytes).then <|
  (compare a.diagnostic.start.row b.diagnostic.start.row).then <|
  (compare a.diagnostic.start.column b.diagnostic.start.column).then <|
  compare a.diagnostic.lint.name b.diagnostic.lint.name

def json (found : List Located) : Text :=
  match found.mergeSort fun a b => compareEntries a b != .gt with
  | [] => line ['[', ']']
  | entries =>
    line ("[\n".toList ++ Text.joinWith [',', '\n'] (entries.map jsonEntry) ++ "\n]".toList)

def escapeBreaks (t : Text) : Text :=
  t.flatMap fun c => match c with
    | '%' => ['%', '2', '5']
    | '\r' => ['%', '0', 'D']
    | '\n' => ['%', '0', 'A']
    | c => [c]

def github (denyWarnings : Bool) (found : List Located) : Text :=
  found.flatMap fun ⟨file, d⟩ =>
    let kind := if d.level = .error ∨ (denyWarnings ∧ d.level = .warn) then "error" else "warning"
    let place := s!",line={d.start.row},col={d.start.column},title={d.lint.name}::".toList
    line (s!"::{kind} file=".toList ++ escapeBreaks file ++ place ++ escapeBreaks d.message)

def version : Text := line "sequence-lint 0.1.0".toList

def pathHelp : List String := [
  "Arguments:",
  "  [PATH]...  Files/directories to lint. Defaults to stdin when absent",
  ""]

def optionHelp : List String := [
  "Options:",
  "      --format <FORMAT>  Output format [default: pretty] [possible values: pretty, json, github]",
  "      --only <ONLY>      Only run these lints (comma-separated)",
  "      --skip <SKIP>      Skip these lints (comma-separated)",
  "      --config <FILE>    Path to a sequence-lint.toml; otherwise discovered from the current directory",
  "      --deny-warnings    Exit with code 1 if any diagnostics are emitted",
  "      --fix              Apply fixes in place",
  "      --fix-dry-run      Print the diff fixes would produce without writing files",
  "      --unsafe-fixes     Also apply fixes that may change behaviour (renames)",
  "      --no-backup        Do not write a `.bak` copy before fixing a file",
  "  -h, --help             Print help"]

def helpLines : HelpPage → List String
  | .all => [
      "Lint JavaScript and TypeScript for naming, ordering and expression complexity",
      "",
      "Usage: sequence-lint [OPTIONS] [PATH]...",
      "       sequence-lint <COMMAND>",
      "",
      "Commands:",
      "  lint        Lint files or directories",
      "  list-rules  List available lints",
      "  explain     Explain a lint",
      "  help        Print this message or the help of the given subcommand(s)",
      ""] ++ pathHelp ++ optionHelp ++ ["  -V, --version          Print version"]
  | .lint => [
      "Lint files or directories",
      "",
      "Usage: sequence-lint lint [OPTIONS] [PATH]...",
      ""] ++ pathHelp ++ optionHelp
  | .listRules => [
      "List available lints",
      "",
      "Usage: sequence-lint list-rules",
      "",
      "Options:",
      "  -h, --help  Print help"]
  | .explain => [
      "Explain a lint",
      "",
      "Usage: sequence-lint explain <RULE>",
      "",
      "Arguments:",
      "  <RULE>  Lint rule name",
      "",
      "Options:",
      "  -h, --help  Print help"]
  | .help => [
      "Print this message or the help of the given subcommand(s)",
      "",
      "Usage: sequence-lint help [COMMAND]...",
      "",
      "Arguments:",
      "  [COMMAND]...  Print help for the subcommand(s)"]

def help (page : HelpPage) : Text := (helpLines page).flatMap fun s => line s.toList

end Output

end ScriptLint
