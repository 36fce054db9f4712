import Mathlib
import ScriptLint.Proofs.Command.Backups
import ScriptLint.Proofs.FixRounds
import ScriptLint.Proofs.Rules.FittingEdits

/-!
What a run of fixes leaves behind.

A file is fixed as a whole or not at all, and the run ends at the first path that fails. The files
that were passed hold what the rounds of fixes came to, the others are as before, and beside each
changed file is what it held, unless the backup of a later file took that place.
-/
namespace ScriptLint.Command

open FileTree

section

variable (l : Linter) (grammar : Grammar) (r : LintRequest)

def Settles (p : Path) (k : Nat) (text final : Text) : Prop :=
  Fix.Settles (l.lint grammar (.ofPath p)) r.riskyFixes maxRounds k text final

/-- The first round applies something to the text of the file. -/
def Touches (t : FileTree) (p : Path) : Prop :=
  ∃ text, t.readText p = .ok text ∧ Fix.Changes (l.lint grammar (.ofPath p)) r.riskyFixes text

/-- Why a file is not fixed: it cannot be read, a round fails, or the backup cannot be written. -/
inductive Refused (t : FileTree) (p : Path) : CommandError → Prop where
  | unread {cause : FileError} (read : t.readText p = .error cause) : Refused t p (.file cause)
  | broken {text : Text} {cause : Fix.Failure} (read : t.readText p = .ok text)
      (breaks : Fix.Breaks (l.lint grammar (.ofPath p)) r.riskyFixes maxRounds text cause) :
      Refused t p (.fix cause)
  | unsaved {text : Text} {cause : FileError} (wanted : r.noBackup = false)
      (touched : Touches l grammar r t p) (read : t.readText p = .ok text)
      (blocked : t.writeText (backupPath p) text = .error cause) : Refused t p (.file cause)

inductive Passes (t : FileTree) (p : Path) : FileTree → Prop where
  | idle {text : Text} (read : t.readText p = .ok text)
      (settled : Settles l grammar r p 0 text text) : Passes t p t
  | fixed {k : Nat} {text final : Text} {t' : FileTree} (read : t.readText p = .ok text)
      (settled : Settles l grammar r p k text final) (some : k ≠ 0)
      (stored : Stored r t p text final t') : Passes t p t'

inductive PassesAll : FileTree → List Path → FileTree → Prop where
  | nil (t : FileTree) : PassesAll t [] t
  | cons {t t' t'' : FileTree} {p : Path} {ps : List Path} (first : Passes l grammar r t p t')
      (rest : PassesAll t' ps t'') : PassesAll t (p :: ps) t''

end

variable {l : Linter} {grammar : Grammar} {r : LintRequest} {t t' : FileTree} {p q : Path}
  {ps : List Path}

theorem fixFile_cases (real : r.fixDryRun = false) (s : FixRun) (p : Path) :
    (∃ s', fixFile l grammar r s p = .ok s' ∧ Passes l grammar r s.files p s'.files) ∨
      ∃ e, fixFile l grammar r s p = .error e ∧ Refused l grammar r s.files p e := by
  unfold fixFile
  cases read : s.files.readText p with
  | error cause => exact Or.inr ⟨_, rfl, .unread read⟩
  | ok text =>
    cases ran : Fix.rounds (l.lint grammar (.ofPath p)) r.riskyFixes maxRounds text with
    | mk rounds failure =>
      cases failure with
      | some cause =>
        simp only [ran]
        exact Or.inr ⟨_, rfl, .broken read (Fix.rounds_break (congrArg Prod.snd ran))⟩
      | none =>
        obtain ⟨k, settled, counted⟩ := Fix.rounds_settle (congrArg Prod.snd ran)
        simp only [ran] at settled counted ⊢
        unfold Fix.appliedIn at counted
        simp only [real, Bool.false_eq_true, ↓reduceIte]
        by_cases nothing : rounds.foldl (· + ·.result.applied) 0 = 0
        · rw [if_pos nothing]
          obtain rfl := counted.mp nothing
          have idle := settled
          rw [settled.eq_of_zero] at idle
          exact Or.inl ⟨_, rfl, .idle read idle⟩
        · rw [if_neg nothing]
          have some : k ≠ 0 := fun zero => nothing (counted.mpr zero)
          rcases @store_cases s.files p r text (Fix.finalText text rounds) read with
            ⟨files, stored, effect⟩ | ⟨wanted, cause, refused, blocked⟩
          · rw [stored]
            exact Or.inl ⟨_, rfl, .fixed read settled some effect⟩
          · rw [refused]
            have touched : Touches l grammar r s.files p :=
              ⟨text, read, (settled.changes (by decide)).mpr some⟩
            exact Or.inr ⟨_, rfl, .unsaved wanted touched read blocked⟩

theorem fixFile_dry (dry : r.fixDryRun = true) {s s' : FixRun}
    (fixed : fixFile l grammar r s p = .ok s') : s'.files = s.files := by
  unfold fixFile at fixed
  split at fixed
  · cases fixed
  · split at fixed
    · cases fixed
    · simp only [dry, ↓reduceIte] at fixed
      split at fixed <;> cases fixed <;> rfl

theorem fixFiles_dry (dry : r.fixDryRun = true) (s : FixRun) (ps : List Path) :
    (fixFiles l grammar r s ps).1.files = s.files := by
  induction ps generalizing s with
  | nil => rfl
  | cons p ps ih =>
    rw [fixFiles]
    cases fixed : fixFile l grammar r s p with
    | error e => rfl
    | ok s' => exact (ih s').trans (fixFile_dry dry fixed)

theorem fixFiles_cases (real : r.fixDryRun = false) (s : FixRun) (ps : List Path) :
    ∃ done rest, ps = done ++ rest ∧
      PassesAll l grammar r s.files done (fixFiles l grammar r s ps).1.files ∧
      ((fixFiles l grammar r s ps).2 = none ∧ rest = [] ∨ ∃ p others e, rest = p :: others ∧
        (fixFiles l grammar r s ps).2 = some e ∧
        Refused l grammar r (fixFiles l grammar r s ps).1.files p e) := by
  induction ps generalizing s with
  | nil => exact ⟨[], [], rfl, .nil s.files, Or.inl ⟨rfl, rfl⟩⟩
  | cons p ps ih =>
    rw [fixFiles]
    rcases @fixFile_cases l grammar r real s p with ⟨s', fixed, passed⟩ | ⟨e, failed, refused⟩
    · rw [fixed]
      obtain ⟨done, rest, rfl, passedAll, ended⟩ := ih s'
      exact ⟨p :: done, rest, rfl, .cons passed passedAll, ended⟩
    · rw [failed]
      exact ⟨[], p :: ps, rfl, .nil s.files, Or.inr ⟨p, ps, e, rfl, rfl, refused⟩⟩

theorem Passes.place (passed : Passes l grammar r t p t') (q : Path) :
    t'.place? q = t.place? q := by
  cases passed with
  | idle => rfl
  | fixed read settled some stored => exact stored.place q

theorem Passes.frame {names : List Name} (passed : Passes l grammar r t p t')
    (changed : t'.look? names ≠ t.look? names) : Touches l grammar r t p ∧
      (t.place? p = some names ∨ r.noBackup = false ∧ t.place? (backupPath p) = some names) := by
  cases passed with
  | idle => exact absurd rfl changed
  | fixed read settled some stored =>
    exact ⟨⟨_, read, (settled.changes (by decide)).mpr some⟩, stored.frame changed⟩

/-- No two of the paths lead to the same file, and none leads to the backup of another. -/
structure Apart (t : FileTree) (ps : List Path) : Prop where
  distinct : ps.Pairwise fun p q => ¬ t.Same p q
  beside : ps.Pairwise fun p q => ¬ t.Same (backupPath p) q ∧ ¬ t.Same (backupPath q) p

theorem same_congr (place : ∀ q, t'.place? q = t.place? q) : t'.Same p q ↔ t.Same p q := by
  unfold Same
  rw [place, place]

theorem touches_congr (same : t'.file? p = t.file? p) :
    Touches l grammar r t' p ↔ Touches l grammar r t p := by
  apply exists_congr
  intro text
  rw [readText_ok_congr same]

theorem Passes.file?_other (passed : Passes l grammar r t p t') (different : ¬ t.Same p q)
    (beside : ¬ t.Same (backupPath p) q) : t'.file? q = t.file? q := by
  apply file?_congr (passed.place q)
  intro names placed
  by_contra changed
  rcases (passed.frame changed).2 with here | ⟨-, saved⟩
  · exact different ⟨by simp [here], here.trans placed.symm⟩
  · exact beside ⟨by simp [saved], saved.trans placed.symm⟩

theorem Apart.file?_rest (apart : Apart t (p :: ps)) (passed : Passes l grammar r t p t') :
    ∀ q ∈ ps, t'.file? q = t.file? q := by
  intro q member
  apply passed.file?_other
  · exact (List.pairwise_cons.mp apart.distinct).1 q member
  · exact ((List.pairwise_cons.mp apart.beside).1 q member).1

theorem Apart.rest (apart : Apart t (p :: ps)) (passed : Passes l grammar r t p t') :
    Apart t' ps := by
  constructor
  · apply (List.pairwise_cons.mp apart.distinct).2.imp
    intro a b different
    rwa [same_congr passed.place]
  · apply (List.pairwise_cons.mp apart.beside).2.imp
    intro a b different
    rwa [same_congr passed.place, same_congr passed.place]

theorem PassesAll.place (passed : PassesAll l grammar r t ps t') (q : Path) :
    t'.place? q = t.place? q := by
  induction passed with
  | nil => rfl
  | cons first rest ih => exact ih.trans (first.place q)

theorem PassesAll.frame {names : List Name} (passed : PassesAll l grammar r t ps t')
    (apart : Apart t ps) (changed : t'.look? names ≠ t.look? names) :
    ∃ p ∈ ps, Touches l grammar r t p ∧
      (t.place? p = some names ∨ r.noBackup = false ∧ t.place? (backupPath p) = some names) := by
  induction passed with
  | nil => exact absurd rfl changed
  | @cons t t' t'' p ps first rest ih =>
    by_cases early : t'.look? names = t.look? names
    · -- The first file changed nothing here, nor in the text that the later one is fixed from.
      obtain ⟨q, member, touched, spot⟩ := ih (apart.rest first) (early ▸ changed)
      rw [first.place, first.place] at spot
      have same := apart.file?_rest first q member
      exact ⟨q, List.mem_cons_of_mem p member, (touches_congr same).mp touched, spot⟩
    · obtain ⟨touched, spot⟩ := first.frame early
      exact ⟨p, List.mem_cons_self, touched, spot⟩

theorem PassesAll.file?_other (passed : PassesAll l grammar r t ps t') (apart : Apart t ps)
    (different : ∀ p ∈ ps, ¬ t.Same p q)
    (beside : ∀ p ∈ ps, Touches l grammar r t p → ¬ t.Same (backupPath p) q) :
    t'.file? q = t.file? q := by
  apply file?_congr (passed.place q)
  intro names placed
  by_contra changed
  obtain ⟨p, member, touched, here | ⟨-, saved⟩⟩ := passed.frame apart changed
  · exact different p member ⟨by simp [here], here.trans placed.symm⟩
  · exact beside p member touched ⟨by simp [saved], saved.trans placed.symm⟩

section First

variable {t'' : FileTree} (apart : Apart t (p :: ps)) (first : Passes l grammar r t p t')
  (rest : PassesAll l grammar r t' ps t'')
include apart first rest

theorem Apart.file?_first : t''.file? p = t'.file? p := by
  apply rest.file?_other (apart.rest first)
  · intro q member same
    have same' := (same_congr first.place).mp same
    exact (List.pairwise_cons.mp apart.distinct).1 q member same'.symm
  · intro q member _ same
    exact ((List.pairwise_cons.mp apart.beside).1 q member).2 ((same_congr first.place).mp same)

theorem Apart.file?_backup
    (free : ∀ q ∈ ps, Touches l grammar r t q → ¬ t.Same (backupPath p) (backupPath q)) :
    t''.file? (backupPath p) = t'.file? (backupPath p) := by
  apply rest.file?_other (apart.rest first)
  · intro q member same
    have same' := (same_congr first.place).mp same
    exact ((List.pairwise_cons.mp apart.beside).1 q member).1 same'.symm
  · intro q member touched same
    have touched' := (touches_congr (apart.file?_rest first q member)).mp touched
    exact free q member touched' ((same_congr first.place).mp same).symm

end First

theorem PassesAll.settled (passed : PassesAll l grammar r t ps t') (apart : Apart t ps) :
    ∀ p ∈ ps, ∃ k text final, t.readText p = .ok text ∧ Settles l grammar r p k text final ∧
      t'.readText p = .ok final ∧ (k = 0 → t'.file? p = t.file? p) := by
  induction passed with
  | nil => exact fun p member => absurd member List.not_mem_nil
  | @cons t t' t'' p ps first rest ih =>
    intro q member
    rcases List.mem_cons.mp member with rfl | later
    · have kept := apart.file?_first first rest
      cases first with
      | idle read settled =>
        exact ⟨0, _, _, read, settled, (readText_ok_congr kept).mpr read, fun _ => kept⟩
      | fixed read settled some stored =>
        refine ⟨_, _, _, read, settled, ?_, fun zero => absurd zero some⟩
        exact (readText_ok_congr kept).mpr stored.readText_file
    · have same := apart.file?_rest first q later
      obtain ⟨k, text, final, read, settled, held, idle⟩ := ih (apart.rest first) q later
      refine ⟨k, text, final, (readText_ok_congr same).mp read, settled, held, ?_⟩
      exact fun zero => (idle zero).trans same

theorem Passes.stored (passed : Passes l grammar r t p t') (touched : Touches l grammar r t p) :
    ∃ text final, t.readText p = .ok text ∧ Stored r t p text final t' := by
  obtain ⟨text, read, changes⟩ := touched
  cases passed with
  | idle read' settled =>
    rw [read] at read'
    cases read'
    exact absurd rfl ((settled.changes (by decide)).mp changes)
  | fixed read' settled some stored => exact ⟨_, _, read', stored⟩

theorem Touches.exists_place (touched : Touches l grammar r t p) :
    ∃ names, t.place? p = some names := by
  obtain ⟨text, read, -⟩ := touched
  exact Option.isSome_iff_exists.mp (same_of_readText read).1

theorem Touches.readText_eq (touched : Touches l grammar r t p) (same : t'.file? p = t.file? p) :
    t'.readText p = t.readText p := by
  obtain ⟨text, read, -⟩ := touched
  rw [read]
  exact (readText_ok_congr same).mpr read

/-- The backup of a changed file holds what the file held, or what a later file held whose backup
has the same place. -/
theorem PassesAll.saved (passed : PassesAll l grammar r t ps t') (apart : Apart t ps)
    (wanted : r.noBackup = false) {before after : List Path} (order : ps = before ++ p :: after)
    (touched : Touches l grammar r t p) (other : ¬ t.Same (backupPath p) p) :
    ∃ q ∈ p :: after, Touches l grammar r t q ∧ t.Same (backupPath p) (backupPath q) ∧
      t'.readText (backupPath p) = t.readText q := by
  induction passed generalizing before p after with
  | nil => simp at order
  | @cons t t' t'' head ps first rest ih =>
    have unchanged := apart.file?_rest first
    have sameIn {a b : Path} : t'.Same a b ↔ t.Same a b := same_congr first.place
    cases before with
    | cons b before =>
      obtain ⟨-, rfl⟩ := List.cons.inj order
      have touched' := (touches_congr (unchanged p (by simp))).mpr touched
      obtain ⟨q, member, touches, same, held⟩ :=
        ih (apart.rest first) rfl touched' (sameIn.not.mpr other)
      have kept := unchanged q (List.mem_append_right before member)
      have touches' := (touches_congr kept).mp touches
      exact ⟨q, member, touches', sameIn.mp same, held.trans (touches'.readText_eq kept)⟩
    | nil =>
      obtain ⟨rfl, rfl⟩ := List.cons.inj order
      obtain ⟨text, final, read, stored⟩ := first.stored touched
      have saved := stored.readText_backup wanted other
      by_cases free : ∀ q ∈ ps, Touches l grammar r t q → ¬ t.Same (backupPath head) (backupPath q)
      · refine ⟨head, List.mem_cons_self, touched, sameIn.mp (same_of_readText saved), ?_⟩
        rw [read]
        exact (readText_ok_congr (apart.file?_backup first rest free)).mpr saved
      · -- The last of the files with this backup is the one whose text is kept.
        push Not at free
        obtain ⟨q, member, touches, same⟩ := free
        obtain ⟨front, back, rfl⟩ := List.append_of_mem member
        have touches' := (touches_congr (unchanged q member)).mpr touches
        have other' : ¬ t'.Same (backupPath q) q := fun own =>
          ((List.pairwise_cons.mp apart.beside).1 q member).1 (same.trans (sameIn.mp own))
        obtain ⟨last, behind, lastTouches, lastSame, held⟩ :=
          ih (apart.rest first) rfl touches' other'
        have listed : last ∈ front ++ q :: back := List.mem_append_right front behind
        have kept := unchanged last listed
        have lastTouches' := (touches_congr kept).mp lastTouches
        refine ⟨last, List.mem_cons_of_mem head listed, lastTouches',
          same.trans (sameIn.mp lastSame), ?_⟩
        have together : t''.Same (backupPath head) (backupPath q) :=
          (same_congr rest.place).mpr (sameIn.mpr same)
        rw [together.readText, held]
        exact lastTouches'.readText_eq kept

/-- What a run leaves behind that has passed `done` and not `rest`. -/
structure Leaves (l : Linter) (w : World) (r : LintRequest) (done rest : List Path)
    (out : Outcome) : Prop where
  /-- The run ends behind the last path, or at one that is refused. -/
  ended : out.failure = none ∧ rest = [] ∨ ∃ p others e, rest = p :: others ∧
    out.failure = some e ∧ Refused l w.grammar r out.files p e
  /-- The files that were not passed are as before. -/
  ahead : ∀ p ∈ rest, out.files.file? p = w.files.file? p
  /-- The files that were passed hold the text that the rounds came to, and without a round that
  applied something they are as before. -/
  behind : ∀ p ∈ done, ∃ k text final, w.files.readText p = .ok text ∧
    Settles l w.grammar r p k text final ∧ out.files.readText p = .ok final ∧
    (k = 0 → out.files.file? p = w.files.file? p)
  /-- Nothing else appears or changes than files where something was applied and their backups. -/
  only : ∀ names, out.files.look? names ≠ w.files.look? names →
    ∃ p ∈ done, Touches l w.grammar r w.files p ∧ (w.files.place? p = some names ∨
      r.noBackup = false ∧ w.files.place? (backupPath p) = some names)
  /-- Backups hold what their files held, unless links make the backup the file itself, or the
  backup of a later file took the place, which needs twin names or links as well. -/
  saved : r.noBackup = false → ∀ before p after, done = before ++ p :: after →
    Touches l w.grammar r w.files p → out.files.readText (backupPath p) = w.files.readText p ∨
      w.files.Same (backupPath p) p ∧ (w.files.IsLink p ∨ w.files.IsLink (backupPath p)) ∨
      ∃ q ∈ after, Touches l w.grammar r w.files q ∧
        w.files.Same (backupPath p) (backupPath q) ∧
        (Twins w.files p q ∨ w.files.IsLink (backupPath p) ∨ w.files.IsLink (backupPath q)) ∧
        out.files.readText (backupPath p) = w.files.readText q

theorem runFix_dry {w : World} (dry : r.fixDryRun = true) : (runFix w r).files = w.files := by
  unfold runFix
  split
  · rfl
  · split
    · rfl
    · rename_i l made
      split
      · rfl
      · rename_i paths found
        have files := @fixFiles_dry l w.grammar r dry { files := w.files } paths
        split
        · rename_i s e ran
          rw [ran] at files
          exact files
        · rename_i s ran
          rw [ran] at files
          exact files

theorem runFix_eq {w : World} {paths : List Path} (some : r.paths ≠ [])
    (made : linter w.files r = .ok l) (found : collect w.files r.paths = .ok paths) :
    (runFix w r).files = (fixFiles l w.grammar r { files := w.files } paths).1.files ∧
      (runFix w r).failure = (fixFiles l w.grammar r { files := w.files } paths).2 := by
  unfold runFix
  rw [if_neg (by simpa using some), made, found]
  dsimp only
  cases fixFiles l w.grammar r { files := w.files } paths with
  | mk s failure =>
    cases failure with
    | none => exact ⟨rfl, rfl⟩
    | some e => exact ⟨rfl, rfl⟩

theorem leaves_of_passesAll {w : World} {done rest : List Path} {out : Outcome}
    (passed : PassesAll l w.grammar r w.files done out.files) (apart : Apart w.files (done ++ rest))
    (ended : out.failure = none ∧ rest = [] ∨ ∃ p others e, rest = p :: others ∧
      out.failure = some e ∧ Refused l w.grammar r out.files p e) :
    Leaves l w r done rest out := by
  obtain ⟨distinct, -, across⟩ := List.pairwise_append.mp apart.distinct
  obtain ⟨beside, -, beyond⟩ := List.pairwise_append.mp apart.beside
  have apartDone : Apart w.files done := ⟨distinct, beside⟩
  refine ⟨ended, ?_, passed.settled apartDone, fun names => passed.frame apartDone, ?_⟩
  · intro p member
    apply passed.file?_other apartDone
    · exact fun q member' => across q member' p member
    · exact fun q member' _ => (beyond q member' p member).1
  · intro wanted before p after order touched
    by_cases own : w.files.Same (backupPath p) p
    · exact Or.inr (Or.inl ⟨own, isLink_of_backup own⟩)
    · obtain ⟨q, member, touches, same, held⟩ := passed.saved apartDone wanted order touched own
      rcases List.mem_cons.mp member with rfl | later
      · exact Or.inl held
      · have different : ¬ w.files.Same p q := by
          rw [order] at distinct
          exact (List.pairwise_cons.mp (List.pairwise_append.mp distinct).2.1).1 q later
        obtain ⟨names, placed⟩ := touched.exists_place
        obtain ⟨names', placed'⟩ := touches.exists_place
        have shared := twins_of_backups placed placed' different same
        exact Or.inr (Or.inr ⟨q, later, touches, same, shared, held⟩)

/-- A dry run changes no file. A run of fixes over paths to different files, none of them the backup
of another, passes them up to one that is refused, and leaves each file fixed or as it was. -/
theorem fixes_whole_files (w : World) (r : LintRequest) :
    (r.fixDryRun = true → (runLint w r).files = w.files) ∧
      ∀ l paths, r.fix = true → r.fixDryRun = false → r.paths ≠ [] →
        linter w.files r = .ok l → collect w.files r.paths = .ok paths → Apart w.files paths →
        ∃ done rest, paths = done ++ rest ∧ Leaves l w r done rest (runLint w r) := by
  constructor
  · intro dry
    unfold runLint
    rw [if_pos (by simp [dry])]
    exact runFix_dry dry
  · intro l paths fix real some made found apart
    have run : runLint w r = runFix w r := if_pos (by simp [fix])
    obtain ⟨files, failure⟩ := runFix_eq some made found
    obtain ⟨done, rest, rfl, passed, ended⟩ :=
      @fixFiles_cases l w.grammar r real { files := w.files } paths
    rw [← files, ← run] at passed ended
    rw [← failure, ← run] at ended
    exact ⟨done, rest, rfl, leaves_of_passesAll passed apart ended⟩

def twoImports : Concrete :=
  .node ⟨"program", ⟨0, 19⟩, true, false, false, false, []⟩
    [importOf ⟨0, 6⟩ ⟨6, 9⟩, importOf ⟨10, 16⟩ ⟨16, 19⟩]

/-- The name `a` and the same with a dot behind it. -/
def plainName : Name := [97]

def dottedName : Name := [97, 46]

def twinPaths : List Path := [plainName, dottedName]

/-- Three files: `a`, `a.`, and the backup of both if there is one. -/
def twinFiles (plain dotted : String) (backup : Option String) : FileTree where
  entries := [(plainName, .file plain.toUTF8), (dottedName, .file dotted.toUTF8)] ++
    backup.toList.map fun text => (backupPath plainName, .file text.toUTF8)

def twinWorld : World where
  files := twinFiles "import'b'\nimport'a'" "import'd'\nimport'c'" none
  input := .empty
  grammar := fun _ _ => some twoImports

def twinRequest : LintRequest :=
  { paths := twinPaths, only := ["ordered_imports_by_path"], fix := true }

def twinLinter : Linter := ⟨[ImportPaths.rule ImportPaths.plainOrder], {}, []⟩

theorem twinLinter_made : linter twinWorld.files twinRequest = .ok twinLinter := rfl

theorem twinPaths_found : collect twinWorld.files twinRequest.paths = .ok twinPaths := by cbv

theorem twinPaths_apart : Apart twinWorld.files twinPaths := ⟨by decide, by decide⟩

theorem fixes_whole_files_twins :
    twinRequest.fix = true ∧ twinRequest.fixDryRun = false ∧ twinRequest.paths ≠ [] ∧
      linter twinWorld.files twinRequest = .ok twinLinter ∧
      collect twinWorld.files twinRequest.paths = .ok twinPaths ∧
      Apart twinWorld.files twinPaths ∧
      (runLint twinWorld { paths := twinPaths, fixDryRun := true }).files = twinWorld.files ∧
      ∃ done rest, twinPaths = done ++ rest ∧
        Leaves twinLinter twinWorld twinRequest done rest (runLint twinWorld twinRequest) :=
  ⟨rfl, rfl, by decide, twinLinter_made, twinPaths_found, twinPaths_apart,
    (fixes_whole_files twinWorld { paths := twinPaths, fixDryRun := true }).1 rfl,
    (fixes_whole_files twinWorld twinRequest).2 twinLinter twinPaths rfl rfl (by decide)
      twinLinter_made twinPaths_found twinPaths_apart⟩

theorem fixFile_once {s : FixRun} {text : Text} {first second : Fix.Round} {files : FileTree}
    (real : r.fixDryRun = false) (read : s.files.readText p = .ok text)
    (made : Fix.round (l.lint grammar (.ofPath p)) r.riskyFixes text = .ok first)
    (applied : first.result.applied ≠ 0)
    (made' : Fix.round (l.lint grammar (.ofPath p)) r.riskyFixes first.result.text = .ok second)
    (idle : second.result.applied = 0)
    (stored : store r s.files p text first.result.text = .ok files) :
    ∃ s', fixFile l grammar r s p = .ok s' ∧ s'.files = files := by
  have rounds : Fix.rounds (l.lint grammar (.ofPath p)) r.riskyFixes maxRounds text =
      ([first, second], none) := by
    simp [maxRounds, Fix.rounds, made, applied, made', idle]
  have final : Fix.finalText text [first, second] = first.result.text :=
    Fix.round_idle made' idle
  unfold fixFile
  rw [read]
  dsimp only
  rw [rounds]
  dsimp only
  rw [final, stored, if_neg (by simp [idle, applied]), if_neg (by simp [real])]
  exact ⟨_, rfl, rfl⟩

def importsFile (text : Text) (x y : Char) : SourceFile :=
  .ofParts text
    { nodes := #[⟨.importDeclaration [] [x] .value, some ⟨0, 9⟩⟩,
        ⟨.importDeclaration [] [y] .value, some ⟨10, 19⟩⟩, ⟨.program [0, 1], some ⟨0, 19⟩⟩]
      root := 2 }
    [⟨.keyword, ⟨0, 6⟩⟩, ⟨.string, ⟨6, 9⟩⟩, ⟨.keyword, ⟨10, 16⟩⟩, ⟨.string, ⟨16, 19⟩⟩] [] []

def foundIn (file : SourceFile) : List Diagnostic × Option LintError :=
  runRules twinLinter.rules twinLinter.settings file

theorem round_twin {text : Text} {file : SourceFile} {found : List Diagnostic}
    {result : FixResult}
    (read : SourceFile.ofConcrete text twoImports twinLinter.globals = file)
    (ran : foundIn file = (found, none))
    (applied : Fix.apply text false (found.filterMap (·.suggestion)) = .ok result)
    (dialect : Dialect) :
    Fix.round (twinLinter.lint twinWorld.grammar dialect) false text = .ok ⟨found, result⟩ := by
  have tree : twinWorld.grammar dialect text = some twoImports := rfl
  have linted : twinLinter.lint twinWorld.grammar dialect text = .ok found := by
    rw [Linter.lint_eq_ok_iff tree, read]
    exact ⟨rfl, ran⟩
  exact Fix.round_of_lint linted applied

theorem fixFile_twin {s : FixRun} {text sorted : Text} {x y : Char} {files : FileTree}
    (read : s.files.readText p = .ok text)
    (parsed : SourceFile.ofConcrete text twoImports twinLinter.globals = importsFile text x y)
    (succeeds : (foundIn (importsFile text x y)).2 = none)
    (applied : Fix.apply text false ((foundIn (importsFile text x y)).1.filterMap (·.suggestion)) =
      .ok ⟨sorted, 1, 0⟩)
    (parsed' : SourceFile.ofConcrete sorted twoImports twinLinter.globals = importsFile sorted y x)
    (quiet : foundIn (importsFile sorted y x) = ([], none))
    (stored : store twinRequest s.files p text sorted = .ok files) :
    ∃ s', fixFile twinLinter twinWorld.grammar twinRequest s p = .ok s' ∧ s'.files = files := by
  have ran : foundIn (importsFile text x y) = ((foundIn (importsFile text x y)).1, none) := by
    rw [← succeeds]
  have made := round_twin parsed ran applied (.ofPath p)
  have idle : Fix.apply sorted false [] = .ok ⟨sorted, 0, 0⟩ := rfl
  have made' := round_twin parsed' quiet idle (.ofPath p)
  exact fixFile_once rfl read made Nat.one_ne_zero made' rfl stored

def firstFixed : FileTree :=
  twinFiles "import'a'\nimport'b'" "import'd'\nimport'c'" (some "import'b'\nimport'a'")

def bothFixed : FileTree :=
  twinFiles "import'a'\nimport'b'" "import'c'\nimport'd'" (some "import'd'\nimport'c'")

theorem fixFile_first : ∃ s, fixFile twinLinter twinWorld.grammar twinRequest
    { files := twinWorld.files } plainName = .ok s ∧ s.files = firstFixed :=
  @fixFile_twin plainName { files := twinWorld.files } "import'b'\nimport'a'".toList
    "import'a'\nimport'b'".toList 'b' 'a' firstFixed (by cbv) rfl (by cbv) (by cbv) rfl (by cbv)
    (by cbv)

theorem fixFile_second {s : FixRun} (before : s.files = firstFixed) : ∃ s',
    fixFile twinLinter twinWorld.grammar twinRequest s dottedName = .ok s' ∧
      s'.files = bothFixed := by
  apply @fixFile_twin dottedName s "import'd'\nimport'c'".toList "import'c'\nimport'd'".toList
    'd' 'c' bothFixed _ rfl (by cbv) (by cbv) rfl (by cbv) _
  · rw [before]
    cbv
  · rw [before]
    cbv

/-- The backup of `a` is overwritten by that of `a.`, although both files are fixed. -/
theorem twin_backup_lost :
    collect twinWorld.files twinRequest.paths = .ok [plainName, dottedName] ∧
      Apart twinWorld.files [plainName, dottedName] ∧
      (runLint twinWorld twinRequest).failure = none ∧
      (runLint twinWorld twinRequest).files.readText plainName ≠ twinWorld.files.readText plainName ∧
      (runLint twinWorld twinRequest).files.readText (backupPath plainName) ≠
        twinWorld.files.readText plainName := by
  obtain ⟨s, first, files⟩ := fixFile_first
  obtain ⟨s', second, files'⟩ := fixFile_second files
  have run : runLint twinWorld twinRequest = runFix twinWorld twinRequest := rfl
  obtain ⟨left, failure⟩ := runFix_eq (by decide) twinLinter_made twinPaths_found
  have passed : fixFiles twinLinter twinWorld.grammar twinRequest { files := twinWorld.files }
      twinPaths = (s', none) := by
    unfold twinPaths
    rw [fixFiles, first]
    dsimp only
    rw [fixFiles, second]
    rfl
  rw [passed] at left failure
  rw [run, failure, left, files']
  have read : twinWorld.files.readText plainName = .ok "import'b'\nimport'a'".toList := by cbv
  have held : bothFixed.readText plainName = .ok "import'a'\nimport'b'".toList := by cbv
  have backup : bothFixed.readText (backupPath plainName) = .ok "import'd'\nimport'c'".toList := by
    cbv
  rw [read, held, backup]
  exact ⟨twinPaths_found, twinPaths_apart, rfl, by decide, by decide⟩

end ScriptLint.Command
