import ScriptLint.Lint.Diagnostic

/-!
Levels of lints.
-/
namespace ScriptLint

/-- Levels by plain lint names. A name without a level warns. -/
structure Settings where
  levels : List (String × Level) := []
  deriving DecidableEq, Repr

namespace Settings

def put (s : Settings) (name : String) (level : Level) : Settings :=
  ⟨(Lint.canonical name, level) :: s.levels.filter (·.1 != Lint.canonical name)⟩

def withLevels (s : Settings) (levels : List (String × Level)) : Settings :=
  levels.foldl (fun s entry => s.put entry.1 entry.2) s

def disable (s : Settings) (names : List String) : Settings :=
  names.foldl (fun s name => s.put name .allow) s

def levelOf (s : Settings) (name : String) : Level :=
  ((s.levels.find? (·.1 == Lint.canonical name)).map Prod.snd).getD .warn

end Settings

/-- What a finding becomes. Nothing is said about a lint that is allowed, not even that its message
is unknown. -/
def Finding.diagnose (f : Finding) (settings : Settings) (file : SourceFile) :
    Except LintError (Option Diagnostic) :=
  match settings.levelOf f.lint.name with
  | .allow => .ok none
  | level => match f.lint.render? f.messageId f.data with
    | none => .error (.unknownMessage f.lint f.messageId)
    | some message => .ok (some
      { lint := f.lint
        level
        start := file.position f.span.start
        stop := file.position f.span.stop
        span := f.span
        messageId := f.messageId
        message
        suggestion := f.suggestion })

namespace Diagnostic

def sortByStart (ds : List Diagnostic) : List Diagnostic :=
  ds.mergeSort fun a b => a.span.start ≤ b.span.start

end Diagnostic

end ScriptLint
