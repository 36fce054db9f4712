import ScriptLint.Edit
import ScriptLint.Lint.Error
import ScriptLint.Lint.Level
import ScriptLint.Source

/-!
Findings of rules and the diagnostics made of them.

A rule reports a finding: where, which message, and possibly an edit. The settings decide whether
it becomes a diagnostic and at which level.
-/
namespace ScriptLint

inductive Applicability where
  | machineApplicable
  | maybeIncorrect
  | hasPlaceholders
  | unspecified
  deriving DecidableEq, Repr

structure Suggestion where
  message : Text
  edit : Edit
  applicability : Applicability
  deriving DecidableEq, Repr

structure Finding where
  lint : Lint
  span : Span
  messageId : String
  data : MessageData
  suggestion : Option Suggestion
  deriving DecidableEq, Repr

structure Diagnostic where
  lint : Lint
  level : Level
  start : Position
  stop : Position
  span : Span
  messageId : String
  message : Text
  suggestion : Option Suggestion
  deriving DecidableEq, Repr

namespace Diagnostic

def help (d : Diagnostic) : Option Text := d.suggestion.map (·.message)

end Diagnostic

end ScriptLint
