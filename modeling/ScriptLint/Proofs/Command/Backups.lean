import Mathlib
import ScriptLint.Proofs.FileTree

/-!
Where backups are, and what storing a fixed text does to the files.

A backup is a name in the directory that holds the name of its file. A text is stored by at most two
changes of content, and only a backup that cannot be written is in the way of it.
-/
namespace ScriptLint.Command

open FileTree

variable {t t' : FileTree} {p q : Path} {front dir names saved : List Name} {name : Name}
  {links : Nat} {text : Text}

theorem backupName_ne (name : Name) : backupName name ≠ name := by
  intro same
  unfold backupName at same
  rcases Path.splitName_cases name with split | ⟨stem, extension, whole, plain, split⟩
  · rw [split] at same
    have longer := congrArg List.length same
    simp at longer
  · -- The last dot of the backup is behind the one that ends the stem.
    rw [split, whole, List.append_cancel_left_eq, List.cons.injEq] at same
    have suffix : Path.dot ∈ Text.bytes ".bak".toList := by decide
    apply plain
    rw [← same.2, Text.bytes_append]
    exact List.mem_append_right _ suffix

theorem leads_backupPath (way : t.Leads p front dir name links)
    (placed : t.place? (backupPath p) = some saved) :
    t.Leads (backupPath p) front dir (backupName name) links := by
  have parts := parts_backupPath way.parts way.proper
  have start : t.start (backupPath p) = t.start p := by
    unfold FileTree.start
    rw [Path.isAbsolute_congr parts way.parts]
  obtain ⟨short, based, -⟩ := place?_eq_some_view.mp placed
  refine ⟨parts, short, based, ?_, backupName_isName name⟩
  rw [start]
  exact way.reached

/-- Two names in one directory that have the same backup. -/
def Twins (t : FileTree) (p q : Path) : Prop :=
  ∃ dir name name', TwinNames name name' ∧ (∃ front links, t.Leads p front dir name links) ∧
    ∃ front links, t.Leads q front dir name' links

theorem twins_of_backups {names' : List Name} (placed : t.place? p = some names)
    (placed' : t.place? q = some names') (different : ¬ t.Same p q)
    (shared : t.Same (backupPath p) (backupPath q)) :
    Twins t p q ∨ t.IsLink (backupPath p) ∨ t.IsLink (backupPath q) := by
  by_contra none
  push Not at none
  obtain ⟨single, bare, bare'⟩ := none
  obtain ⟨front, dir, name, links, way⟩ := exists_leads placed
  obtain ⟨front', dir', name', links', way'⟩ := exists_leads placed'
  obtain ⟨saved, backup⟩ := Option.isSome_iff_exists.mp shared.1
  have backup' := shared.2 ▸ backup
  have mine := (leads_backupPath way backup).place backup bare
  have theirs := (leads_backupPath way' backup').place backup' bare'
  obtain ⟨rfl, sameName⟩ := List.append_inj' (mine.symm.trans theirs) rfl
  have other : name ≠ name' := by
    rintro rfl
    exact different (same_of_leads way way' placed placed')
  have twins := twinNames_of_backupName (List.cons.inj sameName).1 other
  exact single ⟨dir, name, name', twins, ⟨front, links, way⟩, front', links', way'⟩

theorem isLink_of_backup (own : t.Same (backupPath p) p) :
    t.IsLink p ∨ t.IsLink (backupPath p) := by
  by_contra none
  push Not at none
  obtain ⟨bare, bare'⟩ := none
  obtain ⟨saved, backup⟩ := Option.isSome_iff_exists.mp own.1
  have placed := own.2 ▸ backup
  obtain ⟨front, dir, name, links, way⟩ := exists_leads placed
  have mine := way.place placed bare
  have theirs := (leads_backupPath way backup).place backup bare'
  have sameName := List.append_cancel_left (mine.symm.trans theirs)
  exact backupName_ne name (List.cons.inj sameName).1.symm

inductive Stored (r : LintRequest) (t : FileTree) (p : Path) (before after : Text) :
    FileTree → Prop where
  | alone {names : List Name} (bare : r.noBackup = true) (placed : t.place? p = some names) :
      Stored r t p before after (t.put names (.file (String.ofList after).toUTF8))
  | saved {names backup : List Name} (wanted : r.noBackup = false)
      (placed : t.place? p = some names) (beside : t.place? (backupPath p) = some backup) :
      Stored r t p before after ((t.put backup (.file (String.ofList before).toUTF8)).put names
        (.file (String.ofList after).toUTF8))

variable {r : LintRequest} {before after : Text}

theorem place?_saved {content : ByteArray} (beside : t.place? q = some names) (p : Path) :
    (t.put names (.file content)).place? p = t.place? p :=
  place?_put (takes_of_place beside) content p

theorem store_cases (read : t.readText p = .ok before) :
    (∃ t', store r t p before after = .ok t' ∧ Stored r t p before after t') ∨
      r.noBackup = false ∧ ∃ cause, store r t p before after = .error cause ∧
        t.writeText (backupPath p) before = .error cause := by
  obtain ⟨names, placed⟩ := Option.isSome_iff_exists.mp (same_of_readText read).1
  unfold store
  cases bare : r.noBackup with
  | true =>
    left
    exact ⟨_, writeText_ok.mpr ⟨names, placed, rfl⟩, .alone bare placed⟩
  | false =>
    cases written : t.writeText (backupPath p) before with
    | error cause => exact Or.inr ⟨rfl, cause, rfl, rfl⟩
    | ok t' =>
      left
      obtain ⟨backup, beside, rfl⟩ := writeText_ok.mp written
      refine ⟨_, writeText_ok.mpr ⟨names, ?_, rfl⟩, .saved bare placed beside⟩
      rw [place?_saved beside]
      exact placed

theorem Stored.place (stored : Stored r t p before after t') (q : Path) :
    t'.place? q = t.place? q := by
  cases stored with
  | alone bare placed => exact place?_saved placed q
  | saved wanted placed beside =>
    rw [← place?_saved beside] at placed
    rw [place?_saved placed, place?_saved beside]

theorem Stored.frame (stored : Stored r t p before after t')
    (changed : t'.look? names ≠ t.look? names) :
    t.place? p = some names ∨ r.noBackup = false ∧ t.place? (backupPath p) = some names := by
  cases stored with
  | alone bare placed =>
    rw [look?_put (takes_of_place placed)] at changed
    split at changed
    · rename_i here
      rw [here]
      exact Or.inl placed
    · exact absurd rfl changed
  | saved wanted placed beside =>
    have placed' := placed
    rw [← place?_saved beside] at placed'
    rw [look?_put (takes_of_place placed'), look?_put (takes_of_place beside)] at changed
    split at changed
    · rename_i here
      rw [here]
      exact Or.inl placed
    · split at changed
      · rename_i here
        rw [here]
        exact Or.inr ⟨wanted, beside⟩
      · exact absurd rfl changed

theorem Stored.readText_file (stored : Stored r t p before after t') :
    t'.readText p = .ok after := by
  apply readText_ok.mpr
  refine ⟨(String.ofList after).toUTF8, ?_, decode_toUTF8 after⟩
  cases stored with
  | alone bare placed => rw [file?_put (takes_of_place placed), if_pos placed]
  | saved wanted placed beside =>
    rw [← place?_saved beside] at placed
    rw [file?_put (takes_of_place placed), if_pos placed]

theorem Stored.readText_backup (stored : Stored r t p before after t')
    (wanted : r.noBackup = false) (other : ¬ t.Same (backupPath p) p) :
    t'.readText (backupPath p) = .ok before := by
  apply readText_ok.mpr
  refine ⟨(String.ofList before).toUTF8, ?_, decode_toUTF8 before⟩
  cases stored with
  | alone bare placed =>
    rw [wanted] at bare
    cases bare
  | @saved names backup wanted placed beside =>
    have elsewhere : t.place? (backupPath p) ≠ some names := by
      intro here
      exact other ⟨by simp [here], here.trans placed.symm⟩
    rw [← place?_saved beside] at placed
    rw [file?_put (takes_of_place placed), place?_saved beside, if_neg elsewhere,
      file?_put (takes_of_place beside), if_pos beside]

end ScriptLint.Command
