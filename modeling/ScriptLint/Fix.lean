import ScriptLint.Linter

/-!
Applying the edits that diagnostics suggest.

Suggestions are taken in order. One that overlaps a suggestion taken before waits for the next
round, which lints the changed text again.
-/
namespace ScriptLint

def Applicability.isEligible (risky : Bool) : Applicability → Bool
  | machineApplicable => true
  | maybeIncorrect | hasPlaceholders => risky
  | unspecified => false

structure FixResult where
  text : Text
  applied : Nat
  skipped : Nat
  deriving DecidableEq, Repr

namespace Fix

def select (text : Text) (risky : Bool) :
    List Edit → Nat → List Suggestion → Except EditError (List Edit × Nat)
  | taken, skipped, [] => .ok (taken, skipped)
  | taken, skipped, s :: ss =>
    if !s.applicability.isEligible risky then select text risky taken (skipped + 1) ss
    else match s.edit.check text with
      | .error cause => .error cause
      | .ok () =>
        if taken.any (·.overlaps s.edit) then select text risky taken (skipped + 1) ss
        else select text risky (taken ++ [s.edit]) skipped ss

def apply (text : Text) (risky : Bool) (suggestions : List Suggestion) :
    Except EditError FixResult :=
  match select text risky [] 0 suggestions with
  | .error cause => .error cause
  | .ok (taken, skipped) => match Edit.applyAll text taken with
    | .error cause => .error cause
    | .ok fixed => .ok ⟨fixed, taken.length, skipped⟩

inductive Failure where
  | lint (cause : LintError)
  | edit (cause : EditError)
  deriving DecidableEq, Repr

def Failure.message : Failure → String
  | lint cause => cause.message
  | edit cause => cause.message

structure Round where
  found : List Diagnostic
  result : FixResult
  deriving DecidableEq, Repr

def round (lint : Text → Except LintError (List Diagnostic)) (risky : Bool) (text : Text) :
    Except Failure Round :=
  match lint text with
  | .error cause => .error (.lint cause)
  | .ok found => match apply text risky (found.filterMap (·.suggestion)) with
    | .error cause => .error (.edit cause)
    | .ok result => .ok ⟨found, result⟩

/-- Up to `n` rounds. A round that applies nothing is the last one, and so is a failure. -/
def rounds (lint : Text → Except LintError (List Diagnostic)) (risky : Bool) :
    Nat → Text → List Round × Option Failure
  | 0, _ => ([], none)
  | n + 1, text => match round lint risky text with
    | .error failure => ([], some failure)
    | .ok r =>
      if r.result.applied = 0 then ([r], none)
      else
        let rest := rounds lint risky n r.result.text
        (r :: rest.1, rest.2)

def finalText (text : Text) (rs : List Round) : Text :=
  (rs.getLast?.map (·.result.text)).getD text

end Fix

end ScriptLint
