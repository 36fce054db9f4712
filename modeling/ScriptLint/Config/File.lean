import ScriptLint.Config.Options
import ScriptLint.Config.Toml

/-!
Configuration files.

A file can set how much is logged, names that count as declared, levels of lints, lints to leave
out, and the options of the rules.
-/
namespace ScriptLint

structure Config where
  logLevel : Option Text := none
  globals : List Text := []
  disabled : List String := []
  levels : List (String × Level) := []
  rules : RuleOptions := {}
  deriving DecidableEq, Repr

inductive ConfigError where
  | malformed
  | unknownLogLevel (level : Text)
  | unknownLint (name : String)
  deriving DecidableEq, Repr

def ConfigError.message : ConfigError → String
  | malformed => "malformed configuration"
  | unknownLogLevel level => s!"unknown log_level `{String.ofList level}`"
  | unknownLint name => s!"unknown lint `{name}` in [lints]"

namespace Config

def verbosity? (c : Config) : Option Verbosity :=
  c.logLevel.bind fun level => Verbosity.ofName? (String.ofList level)

def lints? (c : Config) : Value → Option Config
  | .table entries =>
    let isDisabled (entry : Text × Value) : Bool := String.ofList entry.1 == "disabled"
    let names := match entries.find? isDisabled with
      | some (_, v) => v.list? fun item => item.text?.map String.ofList
      | none => some []
    match names, Level.ofEntries? .toml (entries.filter (!isDisabled ·)) with
    | some disabled, some levels => some { c with disabled, levels }
    | _, _ => none
  | _ => none

def put (c : Config) (field : String) (v : Value) : Option Config :=
  match field with
  | "log_level" => v.text?.map fun level => { c with logLevel := some level }
  | "globals" => (v.list? Value.text?).map fun globals => { c with globals }
  | "lints" => c.lints? v
  | "rules" => (RuleOptions.ofValue? .toml v).map fun rules => { c with rules }
  | _ => none

def check (c : Config) : Except ConfigError Config :=
  match c.logLevel, c.verbosity? with
  | some level, none => .error (.unknownLogLevel level)
  | _, _ => match (c.levels.map Prod.fst ++ c.disabled).find? (!Lint.isKnownName ·) with
    | some name => .error (.unknownLint name)
    | none => .ok c

def ofText (t : Text) : Except ConfigError Config :=
  let fields := ["log_level", "globals", "lints", "rules"]
  match (Toml.parse? t).bind (Value.record? .toml fields put {}) with
  | some c => c.check
  | none => .error .malformed

def settings (c : Config) : Settings :=
  (Settings.withLevels {} c.levels).disable c.disabled

end Config

end ScriptLint
