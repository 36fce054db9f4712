import ScriptLint.Proofs.Lists
import ScriptLint.Proofs.Naming.ValidNames
import ScriptLint.Proofs.Naming.WordCuts

/-!
Acronyms in names of ASCII characters.

Underscores and other signs stay with the characters around them, and a run of capitals goes on
over them. So a word of capitals is told by the text on its two sides: in front of it no run is
open, and behind it the name ends, or a digit follows, or a small letter follows one character
later. A name in camel case passes unless the policy rejects such a word.
-/
namespace ScriptLint

theorem Text.capital_text {c : Char} (capital : c.isUpper = true) :
    Text.isUpper c = true ∧ Text.isLower c = false ∧ Text.isDigit c = false := by
  have plain : c.isAlphanum = true := by simp [Char.isAlphanum, Char.isAlpha, capital]
  obtain ⟨isUpper, isLower, isDigit⟩ := Text.ascii_classes plain
  rw [isUpper, isLower, isDigit]
  exact ⟨capital, Text.capital_classes capital⟩

namespace Word

/-- Two capitals in a row have opened a run, and no small letter and no digit has closed it. -/
def RunOpen (t : Text) : Prop :=
  ∃ front b c more, t = front ++ b :: c :: more ∧ b.isUpper = true ∧ c.isUpper = true ∧
    ∀ x ∈ more, x.isLower = false ∧ x.isDigit = false

/-- Whether `n` capitals make a word of their own in front of this text. The sign before a small
letter is cut off like the last capital of a run, but a lone capital has not opened a run. -/
def endsCapitals (n : Nat) : Text → Bool
  | [] => true
  | c :: rest =>
    c.isDigit || (rest.head?.any Char.isLower && (c.isUpper || (!c.isAlphanum && 2 ≤ n)))

def Fresh (t : Text) : Prop := t.getLast?.any Char.isUpper = false ∧ ¬ RunOpen t

/-- A word of capitals between the text before it and the text behind it. -/
structure IsAcronym (before word after : Text) : Prop where
  nonempty : word ≠ []
  capitals : ∀ c ∈ word, c.isUpper = true
  fresh : Fresh before
  ends : endsCapitals word.length after = true

theorem runOpen_concat {t : Text} {x : Char} :
    RunOpen (t ++ [x]) ↔ (x.isUpper = true ∧ t.getLast?.any Char.isUpper = true) ∨
      (RunOpen t ∧ x.isLower = false ∧ x.isDigit = false) := by
  constructor
  · rintro ⟨front, b, c, more, whole, first, second, behind⟩
    rcases List.eq_nil_or_concat' more with rfl | ⟨more, y, rfl⟩
    · have parts : t ++ [x] = (front ++ [b]) ++ [c] := by simpa using whole
      obtain ⟨rfl, last⟩ := List.append_inj' parts rfl
      cases last
      exact .inl ⟨second, by simpa using first⟩
    · have parts : t ++ [x] = (front ++ b :: c :: more) ++ [y] := by simpa using whole
      obtain ⟨rfl, last⟩ := List.append_inj' parts rfl
      cases last
      refine .inr ⟨⟨front, b, c, more, rfl, first, second, ?_⟩, behind x (by simp)⟩
      intro z member
      exact behind z (by simp [member])
  · rintro (⟨capital, last⟩ | ⟨⟨front, b, c, more, rfl, first, second, behind⟩, other⟩)
    · rcases List.eq_nil_or_concat' t with rfl | ⟨front, b, rfl⟩
      · simp at last
      · exact ⟨front, b, x, [], by simp, by simpa using last, capital, by simp⟩
    · refine ⟨front, b, c, more ++ [x], by simp, first, second, ?_⟩
      intro z member
      rcases List.mem_append.mp member with earlier | last
      · exact behind z earlier
      · rwa [List.mem_singleton.mp last]

theorem not_runOpen_nil : ¬ RunOpen [] := by
  rintro ⟨front, b, c, more, whole, -⟩
  simp at whole

theorem runOpen_last {t : Text} (runs : RunOpen t) :
    ∃ x ∈ t.getLast?, x.isLower = false ∧ x.isDigit = false := by
  rcases List.eq_nil_or_concat' t with rfl | ⟨t, x, rfl⟩
  · exact absurd runs not_runOpen_nil
  · refine ⟨x, by simp, ?_⟩
    rcases runOpen_concat.mp runs with ⟨capital, -⟩ | ⟨-, other⟩
    · exact Text.capital_classes capital
    · exact other

namespace Scan

inductive Moves (s : Scan) (c : Char) : Scan → Prop where
  | keep (upper : c.isUpper = true →
        s.afterUpper = true ∨ s.inCapitals = true ∨ s.current = [])
      (lower : c.isLower = true → s.inCapitals = false)
      (digit : c.isDigit = true → s.afterDigit = true) :
      Moves s c ⟨s.done, c :: s.current, s.inCapitals || (c.isUpper && s.afterUpper),
        c.isUpper, c.isDigit⟩
  | cut (starts : (c.isUpper = true ∧ s.afterUpper = false ∧ s.inCapitals = false) ∨
        (c.isDigit = true ∧ s.afterDigit = false)) :
      Moves s c ⟨s.finish, [c], false, c.isUpper, c.isDigit⟩
  | cutEarlier {last : Char} {earlier : Text} (current : s.current = last :: earlier)
      (lower : c.isLower = true) (runs : s.inCapitals = true) :
      Moves s c ⟨{ s with current := earlier }.finish, [c, last], false, c.isUpper, c.isDigit⟩

theorem step_moves {s : Scan} {c : Char} (ascii : Text.isAscii c = true)
    (begun : s.inCapitals = true → s.current ≠ []) : s.Moves c (s.step c) := by
  obtain ⟨isUpper, isLower, isDigit⟩ := Text.classes_of_ascii ascii
  have capital : c.isUpper = true → c.isLower = false ∧ c.isDigit = false := Text.capital_classes
  rw [step, isUpper, isDigit, advance, isUpper, isLower, isDigit]
  split
  · rename_i run
    rw [Bool.and_eq_true] at run
    have move : s.Moves c _ := .keep (fun _ => .inl run.2) (by simp [capital run.1])
      (by simp [capital run.1])
    rw [run.1, run.2, Bool.and_true, Bool.or_true] at move
    rwa [run.1]
  · rename_i notRun
    split
    · rename_i starts
      have fresh : s.afterUpper = false ∧ s.inCapitals = false := by simp_all
      have move : s.Moves c _ := .cut (.inl ⟨by simp_all, fresh⟩)
      simpa [cutBefore, fresh.2] using move
    · rename_i notStarts
      split
      · rename_i ends
        rw [Bool.and_eq_true] at ends
        obtain ⟨last, earlier, current⟩ := List.exists_cons_of_ne_nil (begun ends.2)
        rw [cutEarlier, current]
        exact .cutEarlier current ends.1 ends.2
      · rename_i notEnds
        split
        · rename_i digit
          exact .cut (.inr (by simpa using digit))
        · rename_i goesOn
          have move : s.Moves c _ := .keep ?_ ?_ ?_
          · simpa [keep, Bool.eq_false_iff.mpr notRun] using move
          · intro upper
            have begins : s.inCapitals = false → s.current = [] := by simpa [upper] using notStarts
            cases runs : s.inCapitals with
            | true => exact .inr (.inl rfl)
            | false => exact .inr (.inr (begins runs))
          · simpa using notEnds
          · simpa using goesOn

/-- What the scan knows after the text `t`. Capitals that it has not finished are the first ones of
their run. -/
structure Reads (s : Scan) (t : Text) : Prop where
  whole : s.done.reverse.flatten ++ s.current.reverse = t
  begun : s.current = [] → t = []
  afterUpper : s.afterUpper = t.getLast?.any Char.isUpper
  afterDigit : s.afterDigit = t.getLast?.any Char.isDigit
  inCapitals : s.inCapitals = true ↔ RunOpen t
  lone : s.afterUpper = true → s.inCapitals = false → s.current.length = 1
  fresh : (s.inCapitals = true ∨ ∀ c ∈ s.current, c.isUpper = true) →
    Fresh s.done.reverse.flatten

theorem reads_nil : ({} : Scan).Reads [] where
  whole := rfl
  begun := fun _ => rfl
  afterUpper := rfl
  afterDigit := rfl
  inCapitals := by simp [not_runOpen_nil]
  lone := nofun
  fresh := fun _ => ⟨rfl, not_runOpen_nil⟩

section Steps

variable {s s' : Scan} {t : Text} {c : Char}

theorem Reads.head (reads : s.Reads t) : s.current.head? = t.getLast? := by
  cases current : s.current with
  | nil => simp [reads.begun current]
  | cons last earlier =>
    rw [← reads.whole, current]
    simp

theorem Reads.current_ne_nil (reads : s.Reads t) (runs : s.inCapitals = true) :
    s.current ≠ [] := by
  intro empty
  rw [reads.inCapitals, reads.begun empty] at runs
  exact not_runOpen_nil runs

theorem Reads.length_of_run (reads : s.Reads t) (runs : s.inCapitals = true) {last : Char}
    {earlier : Text} (current : s.current = last :: earlier) (sign : last.isUpper = false) :
    2 ≤ earlier.length := by
  obtain ⟨first, closed⟩ := reads.fresh (.inl runs)
  have whole : t = (s.done.reverse.flatten ++ earlier.reverse) ++ [last] := by
    simp [← reads.whole, current]
  rw [reads.inCapitals, whole, runOpen_concat] at runs
  have inner : RunOpen (s.done.reverse.flatten ++ earlier.reverse) := by
    simpa [sign] using runs.imp id And.left
  match earlier with
  | [] => exact absurd (by simpa using inner) closed
  | [x] =>
    rw [List.reverse_singleton, runOpen_concat, first] at inner
    simp [closed] at inner
  | x :: y :: earlier => simp

theorem reads_keep (reads : s.Reads t)
    (upper : c.isUpper = true → s.afterUpper = true ∨ s.inCapitals = true ∨ s.current = [])
    (lower : c.isLower = true → s.inCapitals = false)
    (digit : c.isDigit = true → s.afterDigit = true) :
    (⟨s.done, c :: s.current, s.inCapitals || (c.isUpper && s.afterUpper), c.isUpper,
      c.isDigit⟩ : Scan).Reads (t ++ [c]) := by
  refine ⟨by simp [← reads.whole], nofun, by simp, by simp, ?_, ?_, ?_⟩
  · have other : RunOpen t → c.isLower = false ∧ c.isDigit = false := by
      intro runs
      have inRun := reads.inCapitals.mpr runs
      constructor
      · refine Bool.eq_false_iff.mpr fun small => ?_
        rw [lower small] at inRun
        cases inRun
      · refine Bool.eq_false_iff.mpr fun number => ?_
        obtain ⟨x, last, -, plain⟩ := runOpen_last runs
        have after := digit number
        rw [reads.afterDigit, last, Option.any_some, plain] at after
        cases after
    rw [runOpen_concat, ← reads.afterUpper, Bool.or_eq_true, Bool.and_eq_true, reads.inCapitals,
      or_comm, and_iff_left_of_imp other]
  · rintro (capital : c.isUpper = true) notRun
    simp only [capital, Bool.true_and, Bool.or_eq_false_iff] at notRun
    have alone : s.current = [] := by simpa [notRun] using upper capital
    simp [alone]
  · intro capitals
    apply reads.fresh
    cases inRun : s.inCapitals with
    | true => exact .inl rfl
    | false =>
      right
      rcases capitals with second | all
      · have after : s.afterUpper = true := by simp_all
        obtain ⟨b, single⟩ := List.length_eq_one_iff.mp (reads.lone after inRun)
        rw [reads.afterUpper, ← reads.head, single] at after
        simpa [single] using after
      · intro x member
        exact all x (List.mem_cons_of_mem c member)

theorem reads_cut (reads : s.Reads t)
    (starts : (c.isUpper = true ∧ s.afterUpper = false ∧ s.inCapitals = false) ∨
      (c.isDigit = true ∧ s.afterDigit = false)) :
    (⟨s.finish, [c], false, c.isUpper, c.isDigit⟩ : Scan).Reads (t ++ [c]) := by
  have finished : s.finish.reverse.flatten = t := by rw [flatten_finish, reads.whole]
  have fresh : c.isUpper = true → Fresh t := by
    intro capital
    have classes := Text.capital_classes capital
    have flags : s.afterUpper = false ∧ s.inCapitals = false := by
      simpa [capital, classes] using starts
    refine ⟨by rw [← reads.afterUpper, flags.1], fun runs => ?_⟩
    rw [← reads.inCapitals, flags.2] at runs
    cases runs
  refine ⟨by simp [finished], nofun, by simp, by simp, ?_, fun _ _ => rfl, ?_⟩
  · have shut : ¬ RunOpen (t ++ [c]) := by
      rw [runOpen_concat]
      rintro (⟨capital, last⟩ | ⟨runs, -, plain⟩)
      · rw [(fresh capital).1] at last
        cases last
      · rcases starts with ⟨capital, -⟩ | ⟨digit, -⟩
        · exact (fresh capital).2 runs
        · rw [plain] at digit
          cases digit
    simp [shut]
  · rintro (runs | capitals)
    · cases runs
    · rw [finished]
      exact fresh (capitals c List.mem_cons_self)

theorem reads_cutEarlier (reads : s.Reads t) {last : Char} {earlier : Text}
    (current : s.current = last :: earlier) (lower : c.isLower = true) :
    (⟨{ s with current := earlier }.finish, [c, last], false, c.isUpper, c.isDigit⟩ :
      Scan).Reads (t ++ [c]) := by
  have small : c.isUpper = false := by
    refine Bool.eq_false_iff.mpr fun capital => ?_
    rw [(Text.capital_classes capital).1] at lower
    cases lower
  refine ⟨by simp [flatten_finish, ← reads.whole, current], nofun, by simp, by simp, ?_, ?_, ?_⟩
  · simp [runOpen_concat, small, lower]
  · simp [small]
  · simp [small]

theorem Reads.move (reads : s.Reads t) (move : s.Moves c s') : s'.Reads (t ++ [c]) := by
  cases move with
  | keep upper lower digit => exact reads_keep reads upper lower digit
  | cut starts => exact reads_cut reads starts
  | cutEarlier current lower runs => exact reads_cutEarlier reads current lower

structure Finds (s : Scan) : Prop where
  plain : s.done ≠ [] → ∃ c ∈ s.current, c.isAlphanum = true
  found : ∀ front word back, s.done.reverse = front ++ word :: back →
    (∀ c ∈ word, c.isUpper = true) → ∀ rest,
      IsAcronym front.flatten word (back.flatten ++ s.current.reverse ++ rest)

theorem finds_nil : ({} : Scan).Finds where
  plain := fun some => absurd rfl some
  found := by simp

theorem found_finish (finds : s.Finds) (behind : Text) {earlier tail : Text}
    (current : s.current = tail.reverse ++ earlier)
    (acronym : earlier ≠ [] → (∀ x ∈ earlier, x.isUpper = true) →
      IsAcronym s.done.reverse.flatten earlier.reverse (tail ++ behind))
    {front back : List Text} {word : Text}
    (split : (finish { s with current := earlier }).reverse = front ++ word :: back)
    (capitals : ∀ c ∈ word, c.isUpper = true) :
    IsAcronym front.flatten word (back.flatten ++ (tail ++ behind)) := by
  cases earlier with
  | nil =>
    have before := finds.found front word back split capitals behind
    simpa [current] using before
  | cons x earlier =>
    have grown : s.done.reverse ++ [(x :: earlier).reverse] = front ++ word :: back := by
      rw [← split, ← List.reverse_cons]
      rfl
    rcases split_concat grown with ⟨rfl, rfl, rfl⟩ | ⟨more, rfl, earlierSplit⟩
    · exact acronym (List.cons_ne_nil x earlier)
        (fun y member => capitals y (List.mem_reverse.mpr member))
    · have before := finds.found front word more earlierSplit capitals behind
      simpa [current] using before

theorem acronym_cut (reads : s.Reads t)
    (starts : (c.isUpper = true ∧ s.afterUpper = false ∧ s.inCapitals = false) ∨
      (c.isDigit = true ∧ s.afterDigit = false))
    (filled : s.current ≠ []) (all : ∀ x ∈ s.current, x.isUpper = true) (rest : Text) :
    IsAcronym s.done.reverse.flatten s.current.reverse (c :: rest) := by
  obtain ⟨last, earlier, current⟩ := List.exists_cons_of_ne_nil filled
  have capital : last.isUpper = true := all last (by simp [current])
  have after : s.afterUpper = true := by
    rw [reads.afterUpper, ← reads.head, current]
    exact capital
  refine ⟨by simpa using filled, by simpa using all, reads.fresh (.inr all), ?_⟩
  rcases starts with ⟨-, notAfter, -⟩ | ⟨digit, -⟩
  · rw [after] at notAfter
    cases notAfter
  · simp [endsCapitals, digit]

theorem acronym_cutEarlier (reads : s.Reads t) {last : Char} {earlier : Text}
    (current : s.current = last :: earlier) (lower : c.isLower = true) (runs : s.inCapitals = true)
    (filled : earlier ≠ []) (all : ∀ x ∈ earlier, x.isUpper = true) (rest : Text) :
    IsAcronym s.done.reverse.flatten earlier.reverse ([last] ++ c :: rest) := by
  refine ⟨by simpa using filled, by simpa using all, reads.fresh (.inl runs), ?_⟩
  cases capital : last.isUpper with
  | true => simp [endsCapitals, lower, capital]
  | false =>
    have long := reads.length_of_run runs current capital
    obtain ⟨x, here, small, digit⟩ := runOpen_last (reads.inCapitals.mp runs)
    rw [← reads.head, current, List.head?_cons, Option.mem_some_iff] at here
    subst here
    simp [endsCapitals, lower, Char.isAlphanum, Char.isAlpha, capital, small, digit, long]

theorem Finds.move (finds : s.Finds) (reads : s.Reads t) (move : s.Moves c s') : s'.Finds := by
  cases move with
  | keep upper lower digit =>
    refine ⟨?_, ?_⟩
    · intro some
      obtain ⟨x, member, plain⟩ := finds.plain some
      exact ⟨x, List.mem_cons_of_mem c member, plain⟩
    · intro front word back split capitals rest
      simpa using finds.found front word back split capitals (c :: rest)
  | cut starts =>
    refine ⟨?_, ?_⟩
    · intro some
      refine ⟨c, List.mem_singleton_self c, ?_⟩
      rcases starts with ⟨capital, -⟩ | ⟨digit, -⟩
      · simp [Char.isAlphanum, Char.isAlpha, capital]
      · simp [Char.isAlphanum, digit]
    · intro front word back split capitals rest
      have nothing : s.current = List.reverse [] ++ s.current := rfl
      have acronym := found_finish finds (c :: rest) nothing
        (fun filled all => acronym_cut reads starts filled all rest) split capitals
      simpa using acronym
  | @cutEarlier last earlier current lower runs =>
    refine ⟨?_, ?_⟩
    · intro some
      refine ⟨c, List.mem_cons_self, ?_⟩
      simp [Char.isAlphanum, Char.isAlpha, lower]
    · intro front word back split capitals rest
      have single : s.current = List.reverse [last] ++ earlier := current
      have acronym := found_finish finds (c :: rest) single
        (fun filled all => acronym_cutEarlier reads current lower runs filled all rest) split
        capitals
      simpa using acronym

theorem foldl_reads (reads : s.Reads t) (finds : s.Finds) {rest : Text}
    (ascii : ∀ c ∈ rest, Text.isAscii c = true) :
    (rest.foldl step s).Reads (t ++ rest) ∧ (rest.foldl step s).Finds := by
  induction rest generalizing s t with
  | nil => simpa using ⟨reads, finds⟩
  | cons c rest ih =>
    rw [List.forall_mem_cons] at ascii
    have move := step_moves ascii.1 reads.current_ne_nil
    have next := ih (reads.move move) (finds.move reads move) ascii.2
    rwa [List.append_assoc] at next

theorem foldl_capitals (fresh : s.afterUpper = false ∧ s.inCapitals = false) {word : Text}
    (nonempty : word ≠ []) (capitals : ∀ c ∈ word, c.isUpper = true) :
    word.foldl step s = ⟨s.finish, word.reverse, decide (2 ≤ word.length), true, false⟩ := by
  induction word using List.reverseRecOn with
  | nil => exact absurd rfl nonempty
  | append_singleton front c ih =>
    have classes := Text.capital_text (capitals c (by simp))
    rw [List.foldl_append, List.foldl_cons, List.foldl_nil]
    cases front with
    | nil =>
      cases current : s.current with
      | nil => simp [step, advance, keep, finish, current, fresh, classes]
      | cons last earlier => simp [step, advance, cutBefore, finish, current, fresh, classes]
    | cons b front =>
      rw [ih (List.cons_ne_nil b front) fun x member =>
        capitals x (List.mem_append_left [c] member)]
      simp [step, advance, keep, classes]

theorem done_suffix_finish (s : Scan) : s.done <:+ s.finish := by
  unfold finish
  split
  · exact List.suffix_rfl
  · exact List.suffix_cons _ _

theorem done_suffix_step (s : Scan) (c : Char) : s.done <:+ (s.step c).done := by
  change s.done <:+ (s.advance c).done
  unfold advance
  split
  · exact List.suffix_rfl
  · split
    · exact done_suffix_finish s
    · split
      · unfold cutEarlier
        split
        · exact List.suffix_rfl
        · rename_i last earlier current
          exact done_suffix_finish { s with current := earlier }
      · split
        · exact done_suffix_finish s
        · exact List.suffix_rfl

theorem foldl_done (s : Scan) (rest : Text) :
    s.done.reverse <+: (rest.foldl step s).finish.reverse := by
  rw [List.reverse_prefix]
  induction rest generalizing s with
  | nil => exact done_suffix_finish s
  | cons c rest ih => exact (done_suffix_step s c).trans (ih (s.step c))

theorem step_digit {done : List Text} {word : Text} (nonempty : word ≠ [])
    (runs : Bool) (digit : c.isDigit = true) :
    (step ⟨done, word.reverse, runs, true, false⟩ c).done = word :: done := by
  have plain : c.isAlphanum = true := by simp [Char.isAlphanum, digit]
  obtain ⟨isUpper, isLower, isDigit⟩ := Text.ascii_classes plain
  have classes : c.isUpper = false ∧ c.isLower = false := by
    simpa [digit] using Text.ascii_cases plain
  simp [step, advance, cutBefore, finish, isUpper, isLower, isDigit, classes, digit, nonempty]

theorem step_step_lower {done : List Text} {word : Text} {d : Char} {runs : Bool}
    (nonempty : word ≠ []) (ascii : Text.isAscii c = true) (digit : c.isDigit = false)
    (opens : c.isUpper = true ∨ (c.isLower = false ∧ runs = true)) (lower : d.isLower = true) :
    (step (step ⟨done, word.reverse, runs, true, false⟩ c) d).done = word :: done := by
  have plain : d.isAlphanum = true := by simp [Char.isAlphanum, Char.isAlpha, lower]
  obtain ⟨isUpper, isLower, isDigit⟩ := Text.ascii_classes plain
  obtain ⟨isUpper', isLower', isDigit'⟩ := Text.classes_of_ascii ascii
  have small : d.isUpper = false ∧ d.isDigit = false := by
    simpa [lower] using Text.ascii_cases plain
  have first : step ⟨done, word.reverse, runs, true, false⟩ c =
      ⟨done, c :: word.reverse, true, c.isUpper, c.isDigit⟩ := by
    cases capital : c.isUpper with
    | true => simp [step, advance, keep, isUpper', isDigit', capital]
    | false =>
      have sign : c.isLower = false ∧ runs = true := by simpa [capital] using opens
      simp [step, advance, keep, isUpper', isLower', isDigit', capital, digit, sign]
  rw [first]
  simp [step, advance, cutEarlier, finish, isUpper, isLower, small, lower, nonempty]

theorem foldl_ends {done : List Text} {word after : Text} (nonempty : word ≠ [])
    (ascii : ∀ c ∈ after, Text.isAscii c = true) (ends : endsCapitals word.length after = true) :
    done.reverse ++ [word] <+: (after.foldl step
      ⟨done, word.reverse, decide (2 ≤ word.length), true, false⟩).finish.reverse := by
  rw [← List.reverse_cons]
  cases after with
  | nil => simp [finish, nonempty]
  | cons c rest =>
    rw [List.forall_mem_cons] at ascii
    cases digit : c.isDigit with
    | true =>
      rw [List.foldl_cons, ← step_digit nonempty _ digit]
      exact foldl_done _ rest
    | false =>
      simp only [endsCapitals, digit, Bool.false_or, Bool.and_eq_true, Bool.or_eq_true,
        Bool.not_eq_true', decide_eq_true_eq] at ends
      obtain ⟨small, opens⟩ := ends
      cases rest with
      | nil => cases small
      | cons d rest =>
        have opens' : c.isUpper = true ∨ (c.isLower = false ∧ decide (2 ≤ word.length) = true) := by
          rcases opens with capital | ⟨sign, long⟩
          · exact .inl capital
          · refine .inr ⟨?_, decide_eq_true long⟩
            simp_all [Char.isAlphanum, Char.isAlpha]
        rw [List.foldl_cons, List.foldl_cons,
          ← step_step_lower nonempty ascii.1 digit opens' small]
        exact foldl_done _ rest

end Steps

end Scan

theorem camelTexts_flatten {name : Text} (ascii : ∀ c ∈ name, Text.isAscii c = true) :
    (camelTexts name).flatten = name := by
  have reads := (Scan.foldl_reads Scan.reads_nil Scan.finds_nil ascii).1
  rw [camelTexts, Scan.flatten_finish, reads.whole, List.nil_append]

theorem camelTexts_last {name : Text} (ascii : ∀ c ∈ name, Text.isAscii c = true)
    (two : 2 ≤ (camelTexts name).length) :
    ∀ word ∈ (camelTexts name).getLast?, word.all (· == '_') = false := by
  have finds := (Scan.foldl_reads Scan.reads_nil Scan.finds_nil ascii).2
  rw [camelTexts, List.length_reverse] at two
  rw [camelTexts, List.getLast?_reverse]
  generalize name.foldl Scan.step {} = s at *
  have filled : s.done ≠ [] := by
    intro empty
    have short : s.finish.length ≤ 1 := by
      unfold Scan.finish
      split <;> simp [empty]
    omega
  obtain ⟨x, member, plain⟩ := finds.plain filled
  have current : s.current.isEmpty = false := by simpa using List.ne_nil_of_mem member
  intro word last
  rw [Scan.finish, current] at last
  cases last
  refine Bool.eq_false_iff.mpr fun blank => ?_
  have sign := List.all_eq_true.mp blank x (List.mem_reverse.mpr member)
  rw [eq_of_beq sign] at plain
  cases plain

theorem acronym_of_word {name : Text} (ascii : ∀ c ∈ name, Text.isAscii c = true)
    {front back : List Text} {word : Text} (split : camelTexts name = front ++ word :: back)
    (capitals : ∀ c ∈ word, c.isUpper = true) : IsAcronym front.flatten word back.flatten := by
  obtain ⟨reads, finds⟩ := Scan.foldl_reads Scan.reads_nil Scan.finds_nil ascii
  rw [camelTexts] at split
  generalize name.foldl Scan.step {} = s at *
  have nothing : s.current = List.reverse [] ++ s.current := rfl
  have acronym := Scan.found_finish finds [] nothing ?_ split capitals
  · simpa using acronym
  · intro filled all
    exact ⟨by simpa using filled, by simpa using all, reads.fresh (.inr all), rfl⟩

theorem word_of_acronym {before word after : Text}
    (ascii : ∀ c ∈ before ++ word ++ after, Text.isAscii c = true)
    (acronym : IsAcronym before word after) :
    ∃ front back, camelTexts (before ++ word ++ after) = front ++ word :: back ∧
      front.flatten = before ∧ back.flatten = after := by
  have whole := camelTexts_flatten ascii
  simp only [List.forall_mem_append] at ascii
  have reads := (Scan.foldl_reads Scan.reads_nil Scan.finds_nil ascii.1.1).1
  rw [camelTexts, List.foldl_append, List.foldl_append] at *
  generalize before.foldl Scan.step {} = s at *
  have fresh : s.afterUpper = false ∧ s.inCapitals = false := by
    constructor
    · rw [reads.afterUpper]
      exact acronym.fresh.1
    · refine Bool.eq_false_iff.mpr fun runs => acronym.fresh.2 ?_
      exact reads.inCapitals.mp runs
  have front : s.finish.reverse.flatten = before := by
    rw [Scan.flatten_finish, reads.whole, List.nil_append]
  rw [Scan.foldl_capitals fresh acronym.nonempty acronym.capitals] at *
  obtain ⟨back, texts⟩ := Scan.foldl_ends acronym.nonempty ascii.2 acronym.ends
  refine ⟨s.finish.reverse, back, by rw [← texts]; simp, front, ?_⟩
  rw [← texts] at whole
  simpa [front] using whole

end Word

namespace OneCharWords

/-- The name has an acronym of several letters, or a lone capital where none may stand. -/
def Rejects (policy : OneCharWords) (name : Text) : Prop :=
  ∃ before word after, name = before ++ word ++ after ∧ Word.IsAcronym before word after ∧
    (word.length = 1 → policy.letsLone after.isEmpty = false)

theorem lets_eq_false_iff (policy : OneCharWords) (isLast : Bool) (word : Text) :
    policy.lets isLast word = false ↔
      (∀ c ∈ word, c.isUpper = true) ∧ (word.length = 1 → policy.letsLone isLast = false) := by
  simp [lets, List.all_eq_true]

theorem letsAll_eq_false_iff (policy : OneCharWords) (texts : List Text) :
    policy.letsAll texts = false ↔
      ∃ front word back, texts = front ++ word :: back ∧ policy.lets back.isEmpty word = false := by
  induction texts with
  | nil => simp [letsAll]
  | cons text texts ih =>
    rw [letsAll, Bool.and_eq_false_iff, ih]
    constructor
    · rintro (here | ⟨front, word, back, rfl, later⟩)
      · exact ⟨[], text, texts, rfl, here⟩
      · exact ⟨text :: front, word, back, rfl, later⟩
    · rintro ⟨front, word, back, split, rejected⟩
      cases front with
      | nil =>
        cases split
        exact .inl rejected
      | cons first front =>
        cases split
        exact .inr ⟨front, word, back, rfl, rejected⟩

theorem letsAll_camelTexts (policy : OneCharWords) {name : Text}
    (ascii : ∀ c ∈ name, Text.isAscii c = true) :
    policy.letsAll (Word.camelTexts name) = true ↔ ¬ policy.Rejects name := by
  have filled := (Word.camelTexts_partitions name).filled
  have atEnd : ∀ {front word back}, Word.camelTexts name = front ++ word :: back →
      back.flatten.isEmpty = back.isEmpty := by
    intro front word back split
    cases back with
    | nil => rfl
    | cons next back =>
      have some : next ≠ [] := filled next (by simp [split])
      simpa using fun empty => absurd empty some
  rw [← Bool.not_eq_false, not_iff_not, letsAll_eq_false_iff]
  constructor
  · rintro ⟨front, word, back, split, rejected⟩
    rw [lets_eq_false_iff, ← atEnd split] at rejected
    refine ⟨front.flatten, word, back.flatten, ?_, ?_, rejected.2⟩
    · rw [← Word.camelTexts_flatten ascii, split]
      simp
    · exact Word.acronym_of_word ascii split rejected.1
  · rintro ⟨before, word, after, rfl, acronym, lone⟩
    obtain ⟨front, back, split, -, rfl⟩ := Word.word_of_acronym ascii acronym
    refine ⟨front, word, back, split, ?_⟩
    rw [lets_eq_false_iff, ← atEnd split]
    exact ⟨acronym.capitals, lone⟩

end OneCharWords

theorem Casing.judge_valid_iff (c : Casing) (exempt : Bool) {name : Text}
    (ascii : ∀ x ∈ name, Text.isAscii x = true) :
    c.judge exempt name = .valid ↔
      name ∈ c.ignored ∨
      (isSingleCapsWord name = true ∧ (c.ignoreSingleWords = true ∨ exempt = true)) ∨
      Word.isScreamingSnake name = true ∨
      (Word.isMixedSnake name = false ∧ ¬ c.oneCharWords.Rejects name) := by
  have inside : ∀ word ∈ Word.camelTexts name, ∀ x ∈ word, Text.isAscii x = true := by
    intro word listed x member
    apply ascii
    rw [← Word.camelTexts_flatten ascii]
    exact List.mem_flatten_of_mem listed member
  have accepted := all_accepts_ascii c (Word.camelTexts_partitions name).filled inside
    (Word.camelTexts_last ascii)
  rw [← OneCharWords.letsAll_camelTexts c.oneCharWords ascii, ← accepted, judge, Word.camel]
  cases listed : c.ignored.contains name with
  | true => simp_all
  | false =>
    have unlisted : name ∉ c.ignored := by simpa using listed
    cases single : isSingleCapsWord name && (c.ignoreSingleWords || exempt) with
    | true => simp_all
    | false =>
      have other : ¬ (isSingleCapsWord name = true ∧
          (c.ignoreSingleWords = true ∨ exempt = true)) := by simpa using single
      cases Word.isScreamingSnake name with
      | true => simp
      | false =>
        cases Word.isMixedSnake name with
        | true => simp [unlisted, other]
        | false =>
          simp [unlisted, other]

end ScriptLint
