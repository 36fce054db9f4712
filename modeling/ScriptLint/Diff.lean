import ScriptLint.Text.Basic

/-!
Unified diffs of two texts whose lines correspond by position.

Line `i` of one text is compared with line `i` of the other. Each changed line is shown with
`context` lines on both sides, and changes whose surroundings touch share one hunk.
-/
namespace ScriptLint.Diff

/-- The lines from `first` up to, but without, `last` of both texts. -/
structure Hunk where
  first : Nat
  last : Nat
  deriving DecidableEq, Repr

def changedLines (before after : List Text) : List Nat :=
  (List.range (max before.length after.length)).filter fun i => before[i]? != after[i]?

def growHunks (context total : Nat) (h : Hunk) : List Nat → List Hunk
  | [] => [h]
  | i :: is =>
    let stop := min (i + context + 1) total
    if i - context ≤ h.last then growHunks context total ⟨h.first, stop⟩ is
    else h :: growHunks context total ⟨i - context, stop⟩ is

def hunks (context total : Nat) : List Nat → List Hunk
  | [] => []
  | i :: is => growHunks context total ⟨i - context, min (i + context + 1) total⟩ is

def header (before after : List Text) (h : Hunk) : Text :=
  let size (lines : List Text) := min h.last lines.length - h.first
  s!"@@ -{h.first + 1},{size before} +{h.first + 1},{size after} @@".toList

def lineBody (before after : List Text) (i : Nat) : List Text :=
  if before[i]? = after[i]? then (before[i]?.map (' ' :: ·)).toList
  else (before[i]?.map ('-' :: ·)).toList ++ (after[i]?.map ('+' :: ·)).toList

def hunkLines (before after : List Text) (h : Hunk) : List Text :=
  header before after h ::
    (List.range' h.first (h.last - h.first)).flatMap (lineBody before after)

def unlines (lines : List Text) : Text := lines.flatMap (· ++ ['\n'])

def defaultContext : Nat := 3

def render (context : Nat) (before after path : Text) : Text :=
  let old := before.lines
  let new := after.lines
  match changedLines old new with
  | [] => []
  | changed =>
    unlines (("--- a/".toList ++ path) :: ("+++ b/".toList ++ path) ::
      (hunks context (max old.length new.length) changed).flatMap (hunkLines old new))

end ScriptLint.Diff
