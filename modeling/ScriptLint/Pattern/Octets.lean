import ScriptLint.Text.CharSet

/-!
Characters as sequences of octets in UTF-8.

A set of characters falls into sequences of ranges of octets: whatever is chosen from each range of
a sequence, the octets together are a character of the set.
-/
namespace ScriptLint.Octets

abbrev Run := List CharRange

def anyTail : CharRange := ⟨0x80, 0xBF⟩

/-- The runs for the numbers from `a` to `b`, written with `tails` octets of six bits after a first
one that starts from `mark`. -/
def runsOf : Nat → Nat → Nat → Nat → List Run
  | mark, 0, a, b => [[⟨mark + a, mark + b⟩]]
  | mark, tails + 1, a, b =>
    let unit := 64 ^ (tails + 1)
    let whole (first last : Nat) : List Run :=
      if first ≤ last then
        [⟨mark + first, mark + last⟩ :: List.replicate (tails + 1) anyTail] else []
    let within (first a b : Nat) : List Run :=
      (runsOf 0x80 tails a b).map (⟨mark + first, mark + first⟩ :: ·)
    if a / unit = b / unit then
      if a % unit = 0 ∧ b % unit = unit - 1 then whole (a / unit) (b / unit)
      else within (a / unit) (a % unit) (b % unit)
    else
      let front := if a % unit = 0 then [] else within (a / unit) (a % unit) (unit - 1)
      let back := if b % unit = unit - 1 then [] else within (b / unit) 0 (b % unit)
      let first := if a % unit = 0 then a / unit else a / unit + 1
      let last := if b % unit = unit - 1 then b / unit else b / unit - 1
      front ++ whole first last ++ back

def clip? (low high : Nat) (r : CharRange) : Option CharRange :=
  if max low r.first ≤ min high r.last then some ⟨max low r.first, min high r.last⟩ else none

def ofRange (r : CharRange) : List Run :=
  let part (low high mark tails : Nat) : List Run :=
    match clip? low high r with
    | some r => runsOf mark tails r.first r.last
    | none => []
  part 0 0x7F 0 0 ++ part 0x80 0x7FF 0xC0 1 ++ part 0x800 0xFFFF 0xE0 2 ++
    part 0x10000 0x10FFFF 0xF0 3

def ofSet (s : CharSet) : List Run := s.ranges.flatMap ofRange

def common : Run → Run → Nat
  | r :: rs, q :: qs => if r = q then 1 + common rs qs else 0
  | _, _ => 0

/-- The number of ranges that are left when runs share what neighbours have in common at the
front. -/
def branchCount (previous : Run) : List Run → Nat
  | [] => 0
  | run :: runs => run.length - common previous run + branchCount run runs

def groupByFirst : List Run → List (CharRange × List Run)
  | [] => []
  | [] :: runs => groupByFirst runs
  | (r :: rest) :: runs => match groupByFirst runs with
    | (q, group) :: groups =>
      if r = q then (q, rest :: group) :: groups else (r, [rest]) :: (q, group) :: groups
    | [] => [(r, [rest])]

def places : Nat → List (List Run) → List (List Run)
  | 0, _ => []
  | depth + 1, level =>
    let level := level.eraseDups
    (level ++ places depth
      (level.flatMap fun runs => (groupByFirst runs).filterMap fun (_, group) =>
        if group.all (·.isEmpty) then none else some group)).eraseDups

end ScriptLint.Octets
