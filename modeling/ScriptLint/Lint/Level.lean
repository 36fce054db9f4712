import ScriptLint.Text.Basic
import ScriptLint.Text.Blank

/-!
How much weight a lint carries, and how much the program tells about its own work.
-/
namespace ScriptLint

inductive Level where
  | allow
  | warn
  | error
  deriving DecidableEq, Repr

def plainWord (word : String) : String :=
  String.ofList ((Text.trim Text.isBlank word.toList).map Char.toLower)

namespace Level

def label : Level → String
  | allow => "allow"
  | warn => "warning"
  | error => "error"

def ofKeyword? : String → Option Level
  | "allow" => some .allow
  | "warn" => some .warn
  | "error" => some .error
  | _ => none

def ofName? (name : String) : Option Level :=
  match plainWord name with
  | "allow" | "off" => some .allow
  | "warn" | "warning" => some .warn
  | "error" | "deny" => some .error
  | _ => none

end Level

inductive Verbosity where
  | off
  | error
  | warn
  | info
  | debug
  | trace
  deriving DecidableEq, Repr

namespace Verbosity

def label : Verbosity → String
  | off => "off"
  | error => "error"
  | warn => "warn"
  | info => "info"
  | debug => "debug"
  | trace => "trace"

def all : List Verbosity := [.off, .error, .warn, .info, .debug, .trace]

def ofName? (name : String) : Option Verbosity :=
  all.find? fun v => v.label == plainWord name

def directive (v : Verbosity) : String := "sequence_lint=" ++ v.label

def showsDetail : Verbosity → Bool
  | debug | trace => true
  | _ => false

end Verbosity

end ScriptLint
