import Mathlib
import ScriptLint.Proofs.Path

/-!
Where paths lead in a tree of files, before and after a file is written.

A path that does not lead to a directory has a place in the tree, whether there is a file or not.
Writing a file changes what is at one place, and no path gets another place by it.
-/
namespace ScriptLint

namespace Entry

variable {e new : Entry} {names others : List Name}

theorem find?_leaf (leaf : e.isDirectory = false) (name : Name) (names : List Name) :
    e.find? (name :: names) = none := by
  cases e with
  | file content => rfl
  | link target => rfl
  | directory entries => cases leaf

theorem find?_append (e : Entry) (names others : List Name) :
    e.find? (names ++ others) = (e.find? names).bind (·.find? others) := by
  induction names generalizing e with
  | nil =>
    rw [List.nil_append, find?.eq_def e []]
    rfl
  | cons name names ih =>
    cases e with
    | file content => rfl
    | link target => rfl
    | directory entries =>
      rw [List.cons_append, find?, find?]
      cases entries.lookup name with
      | none => rfl
      | some entry => exact ih entry

theorem isDirectory_of_find? (found : (e.find? names).any isDirectory = true) :
    e.isDirectory = true := by
  cases names with
  | nil =>
    rw [find?.eq_def] at found
    exact found
  | cons name names =>
    by_contra leaf
    rw [find?_leaf (Bool.eq_false_iff.mpr leaf)] at found
    cases found

theorem lookup_insert (name other : Name) (entry : Entry) (entries : List (Name × Entry)) :
    (insert name entry entries).lookup other =
      if other = name then some entry else entries.lookup other := by
  induction entries with
  | nil =>
    rw [insert, List.lookup_cons]
    by_cases same : other = name
    · simp [same]
    · simp [same, beq_eq_false_iff_ne.mpr same]
  | cons first entries ih =>
    rw [insert]
    by_cases here : first.1 = name
    · rw [if_pos here, List.lookup_cons, List.lookup_cons, here]
      by_cases same : other = name
      · simp [same]
      · simp [same, beq_eq_false_iff_ne.mpr same]
    · rw [if_neg here, List.lookup_cons, List.lookup_cons, ih]
      by_cases same : other = first.1
      · have different : other ≠ name := same ▸ here
        simp [same, here]
      · simp [beq_eq_false_iff_ne.mpr same]

theorem surface_leaf (leaf : new.isDirectory = false) : new.surface = new := by
  cases new with
  | file content => rfl
  | link target => rfl
  | directory entries => cases leaf

theorem isDirectory_surface (e : Entry) : e.surface.isDirectory = e.isDirectory := by
  cases e <;> rfl

theorem surface_put (leaf : new.isDirectory = false) (filled : names ≠ [])
    (inside : (e.find? names.dropLast).any isDirectory = true)
    (free : (e.find? names).any isDirectory = false) :
    ((put new names e).find? others).map surface =
      if others = names then some new else (e.find? others).map surface := by
  induction names generalizing e others with
  | nil => exact absurd rfl filled
  | cons name names ih =>
    have top := isDirectory_of_find? inside
    cases e with
    | file content => cases top
    | link target => cases top
    | directory entries =>
      cases others with
      | nil => rfl
      | cons other others =>
        rw [put, find?, find?, lookup_insert]
        by_cases here : other = name
        · subst here
          rw [if_pos rfl, Option.bind_some]
          rw [find?] at free
          by_cases last : names = []
          · subst last
            have bottom : put new [] ((entries.lookup other).getD (directory [])) = new := rfl
            rw [bottom]
            cases others with
            | nil =>
              have here : find? new [] = some new := by rw [find?.eq_def]
              rw [if_pos rfl, here, Option.map_some, surface_leaf leaf]
            | cons next others =>
              rw [if_neg (by simp), find?_leaf leaf]
              cases old : entries.lookup other with
              | none => rfl
              | some entry =>
                rw [old, Option.bind_some, find?.eq_def] at free
                rw [Option.bind_some, find?_leaf free]
          · rw [List.dropLast_cons_of_ne_nil last, find?] at inside
            cases old : entries.lookup other with
            | none =>
              rw [old] at inside
              cases inside
            | some entry =>
              rw [old] at inside free
              rw [Option.getD_some, ih last inside free]
              simp
        · rw [if_neg here, if_neg (by simp [here])]

end Entry

def Target.spot : Target → List Name × Bool
  | .file names _ => (names, false)
  | .vacant names => (names, false)
  | .directory names => (names, true)

namespace FileTree

variable {t : FileTree} {p q : Path} {front dir names : List Name} {name : Name} {links : Nat}
  {content : ByteArray}

theorem isDirectory_eq (t : FileTree) (names : List Name) :
    t.isDirectory names = (t.find? names).any Entry.isDirectory := by
  unfold isDirectory look?
  cases t.find? names with
  | none => rfl
  | some entry => exact Entry.isDirectory_surface entry

theorem isDirectory_nil (t : FileTree) : t.isDirectory [] = true := rfl

theorem isDirectory_dropLast (held : t.isDirectory names = true) :
    t.isDirectory names.dropLast = true := by
  rcases List.eq_nil_or_concat' names with rfl | ⟨above, name, rfl⟩
  · rfl
  · rw [List.dropLast_concat]
    rw [isDirectory_eq, find?, Entry.find?_append] at held
    rw [isDirectory_eq, find?]
    cases found : (Entry.directory t.entries).find? above with
    | none =>
      rw [found] at held
      cases held
    | some entry =>
      rw [found] at held
      exact Entry.isDirectory_of_find? held

/-- A file can be under the names: its directory is there, and nothing but a file is in the way. -/
structure Takes (t : FileTree) (names : List Name) : Prop where
  filled : names ≠ []
  inside : t.isDirectory names.dropLast = true
  free : ∀ entry, t.look? names = some entry → ∃ content, entry = .file content

theorem Takes.not_directory (takes : t.Takes names) : t.isDirectory names = false := by
  unfold isDirectory
  cases found : t.look? names with
  | none => rfl
  | some entry =>
    obtain ⟨content, rfl⟩ := takes.free entry found
    rfl

theorem find?_put (filled : names ≠ []) (new : Entry) (others : List Name) :
    (t.put names new).find? others =
      (Entry.put new names (.directory t.entries)).find? others := by
  cases names with
  | nil => exact absurd rfl filled
  | cons name names => rfl

theorem look?_put (takes : t.Takes names) (content : ByteArray) (others : List Name) :
    (t.put names (.file content)).look? others =
      if others = names then some (.file content) else t.look? others := by
  have inside := takes.inside
  have free := takes.not_directory
  rw [isDirectory_eq] at inside free
  unfold look?
  rw [find?_put takes.filled]
  exact Entry.surface_put rfl takes.filled inside free

theorem base_put (t : FileTree) (names : List Name) (new : Entry) :
    (t.put names new).base = t.base := by
  unfold put
  split <;> rfl

theorem isDirectory_put (takes : t.Takes names) (content : ByteArray) (others : List Name) :
    (t.put names (.file content)).isDirectory others = t.isDirectory others := by
  by_cases here : others = names
  · rw [here, takes.not_directory, isDirectory, look?_put takes, if_pos rfl]
    rfl
  · rw [isDirectory, look?_put takes, if_neg here]
    rfl

theorem content?_put (takes : t.Takes names) (content : ByteArray) (others : List Name) :
    (t.put names (.file content)).content? others =
      if others = names then some content else t.content? others := by
  unfold content?
  rw [look?_put takes]
  by_cases here : others = names
  · rw [if_pos here, if_pos here]
  · rw [if_neg here, if_neg here]

/-- The names under which the file of a path is, or would be. -/
def place? (t : FileTree) (p : Path) : Option (List Name) :=
  match t.resolve p with
  | .ok (.file names _) | .ok (.vacant names) => some names
  | _ => none

def file? (t : FileTree) (p : Path) : Option ByteArray := (t.place? p).bind t.content?

/-- Both paths lead to the same place. -/
def Same (t : FileTree) (p q : Path) : Prop := (t.place? p).isSome = true ∧ t.place? p = t.place? q

instance (t : FileTree) (p q : Path) : Decidable (t.Same p q) := inferInstanceAs (Decidable (_ ∧ _))

theorem Same.symm (same : t.Same p q) : t.Same q p := ⟨same.2 ▸ same.1, same.2.symm⟩

theorem Same.trans {p₃ : Path} (same : t.Same p q) (same' : t.Same q p₃) : t.Same p p₃ :=
  ⟨same.1, same.2.trans same'.2⟩

inductive Follows (t : FileTree) (jump : Walk → Path → Except FileError Walk) :
    Walk → Name → Walk → Prop where
  | void {links : Nat} {dir : List Name} {piece : Name} (void : Path.isVoid piece = true) :
      Follows t jump ⟨links, .directory dir⟩ piece ⟨links, .directory dir⟩
  | up {links : Nat} {dir : List Name} :
      Follows t jump ⟨links, .directory dir⟩ Path.up ⟨links, .directory dir.dropLast⟩
  | vacant {links : Nat} {dir : List Name} {piece : Name} (proper : Path.IsName piece)
      (fits : isLongName piece = false) (found : t.look? (dir ++ [piece]) = none) :
      Follows t jump ⟨links, .directory dir⟩ piece ⟨links, .vacant (dir ++ [piece])⟩
  | file {links : Nat} {dir : List Name} {piece : Name} {content : ByteArray}
      (proper : Path.IsName piece) (fits : isLongName piece = false)
      (found : t.look? (dir ++ [piece]) = some (.file content)) :
      Follows t jump ⟨links, .directory dir⟩ piece ⟨links, .file (dir ++ [piece]) content⟩
  | directory {links : Nat} {dir : List Name} {piece : Name} {entries : List (Name × Entry)}
      (proper : Path.IsName piece) (fits : isLongName piece = false)
      (found : t.look? (dir ++ [piece]) = some (.directory entries)) :
      Follows t jump ⟨links, .directory dir⟩ piece ⟨links, .directory (dir ++ [piece])⟩
  | link {links : Nat} {dir : List Name} {piece : Name} {target : Path} {w : Walk}
      (proper : Path.IsName piece) (fits : isLongName piece = false)
      (found : t.look? (dir ++ [piece]) = some (.link target))
      (jumped : jump ⟨links, .directory (if target.isAbsolute then [] else dir)⟩ target = .ok w) :
      Follows t jump ⟨links + 1, .directory dir⟩ piece w

theorem follow_ok {jump : Walk → Path → Except FileError Walk} {w w' : Walk} {piece : Name} :
    t.follow jump w piece = .ok w' ↔ Follows t jump w piece w' := by
  constructor
  · intro followed
    obtain ⟨links, place⟩ := w
    unfold follow at followed
    cases place with
    | file names content => cases followed
    | vacant names => cases followed
    | directory dir =>
      dsimp only at followed
      split at followed
      · rename_i void
        cases followed
        exact .void void
      · rename_i meaning
        split at followed
        · cases followed
        · rename_i fits
          split at followed
          · rename_i isUp
            cases followed
            rw [isUp]
            exact .up
          · rename_i other
            have proper : Path.IsName piece := ⟨by simpa using meaning, other⟩
            have short : isLongName piece = false := by simpa using fits
            split at followed
            · rename_i found
              cases followed
              exact .vacant proper short found
            · rename_i found
              cases followed
              exact .file proper short found
            · rename_i found
              cases followed
              exact .directory proper short found
            · rename_i found
              cases links with
              | zero => cases followed
              | succ links => exact .link proper short found followed
  · intro follows
    unfold follow
    cases follows with
    | void void => simp [void]
    | up => rfl
    | vacant proper fits found => simp [proper.1, proper.2, fits, found]
    | file proper fits found => simp [proper.1, proper.2, fits, found]
    | directory proper fits found => simp [proper.1, proper.2, fits, found]
    | link proper fits found jumped => simp [proper.1, proper.2, fits, found, jumped]

theorem foldlM_concat (f : Walk → Name → Except FileError Walk) (w : Walk) (front : List Name)
    (piece : Name) : (front ++ [piece]).foldlM f w = (front.foldlM f w).bind (f · piece) := by
  rw [List.foldlM_append]
  cases front.foldlM f w with
  | error e => rfl
  | ok next => exact bind_pure (f next piece)

theorem foldlM_concat_ok {f : Walk → Name → Except FileError Walk} {w w' : Walk} {piece : Name} :
    (front ++ [piece]).foldlM f w = .ok w' ↔
      ∃ next, front.foldlM f w = .ok next ∧ f next piece = .ok w' := by
  rw [foldlM_concat]
  cases front.foldlM f w with
  | error e => simp [Except.bind]
  | ok next => simp [Except.bind]

theorem foldlM_related {related : Walk → Walk → Prop} {f g : Walk → Name → Except FileError Walk}
    (step : ∀ w v piece w', related w v → f w piece = .ok w' →
      ∃ v', g v piece = .ok v' ∧ related w' v')
    {pieces : List Name} {w v w' : Walk} (start : related w v)
    (ran : pieces.foldlM f w = .ok w') :
    ∃ v', pieces.foldlM g v = .ok v' ∧ related w' v' := by
  induction pieces using List.reverseRecOn generalizing w' with
  | nil =>
    cases ran
    exact ⟨v, rfl, start⟩
  | append_singleton front piece ih =>
    obtain ⟨next, before, last⟩ := foldlM_concat_ok.mp ran
    obtain ⟨next', before', between⟩ := ih before
    obtain ⟨v', last', ended⟩ := step next next' piece w' between last
    exact ⟨v', foldlM_concat_ok.mpr ⟨next', before', last'⟩, ended⟩

def Holds (t : FileTree) : Target → Prop
  | .file names content => names ≠ [] ∧ t.isDirectory names.dropLast = true ∧
      t.look? names = some (.file content)
  | .vacant names => names ≠ [] ∧ t.isDirectory names.dropLast = true ∧ t.look? names = none
  | .directory names => t.isDirectory names = true

theorem Follows.holds {jump : Walk → Path → Except FileError Walk} {w w' : Walk} {piece : Name}
    (jumps : ∀ w target w', t.Holds w.place → jump w target = .ok w' → t.Holds w'.place)
    (start : t.Holds w.place) (follows : Follows t jump w piece w') : t.Holds w'.place := by
  cases follows with
  | void void => exact start
  | up => exact isDirectory_dropLast start
  | vacant proper fits found => exact ⟨by simp, by rwa [List.dropLast_concat], found⟩
  | file proper fits found => exact ⟨by simp, by rwa [List.dropLast_concat], found⟩
  | directory proper fits found =>
    change t.isDirectory _ = true
    rw [isDirectory, found]
    rfl
  | link proper fits found jumped =>
    refine jumps _ _ _ ?_ jumped
    change t.isDirectory _ = true
    split
    · exact t.isDirectory_nil
    · exact start

theorem walk_holds {depth : Nat} {w w' : Walk} (start : t.Holds w.place)
    (walked : t.walk depth w p = .ok w') : t.Holds w'.place := by
  induction depth generalizing w p w' with
  | zero => cases walked
  | succ depth ih =>
    unfold walk at walked
    split at walked
    · cases walked
    · have step (w v : Walk) (piece : Name) (w' : Walk) (same : v = w ∧ t.Holds w.place)
          (followed : t.follow (t.walk depth) w piece = .ok w') :
          ∃ v', t.follow (t.walk depth) v piece = .ok v' ∧ v' = w' ∧ t.Holds w'.place := by
        obtain ⟨rfl, held⟩ := same
        refine ⟨w', followed, rfl, (follow_ok.mp followed).holds ?_ held⟩
        exact fun w target w' held jumped => ih held jumped
      obtain ⟨v', -, -, held⟩ := foldlM_related step ⟨rfl, start⟩ walked
      exact held

theorem resolve_ok {target : Target} : t.resolve p = .ok target ↔ p.length ≤ maxPathSize ∧
    t.isDirectory (t.start p) = true ∧
      ∃ w, t.walk (maxLinks + 1) ⟨maxLinks, .directory (t.start p)⟩ p = .ok w ∧
        w.place = target := by
  unfold resolve
  by_cases long : maxPathSize < p.length
  · rw [if_pos long]
    exact ⟨fun h => (nomatch h), fun h => absurd h.1 (Nat.not_le.mpr long)⟩
  · rw [if_neg long]
    cases based : t.isDirectory (t.start p) with
    | false => simp
    | true =>
      cases t.walk (maxLinks + 1) ⟨maxLinks, .directory (t.start p)⟩ p with
      | error e => simp
      | ok w => simp [Nat.le_of_not_lt long]

theorem resolve_holds {target : Target} (resolved : t.resolve p = .ok target) :
    t.Holds target := by
  obtain ⟨-, based, w, walked, rfl⟩ := resolve_ok.mp resolved
  exact walk_holds (w := ⟨maxLinks, .directory (t.start p)⟩) based walked

theorem place?_eq_some : t.place? p = some names ↔
    (∃ content, t.resolve p = .ok (.file names content)) ∨ t.resolve p = .ok (.vacant names) := by
  unfold place?
  cases t.resolve p with
  | error e => simp
  | ok target => cases target <;> simp

theorem place?_eq_some_spot : t.place? p = some names ↔
    ∃ target, t.resolve p = .ok target ∧ target.spot = (names, false) := by
  unfold place?
  cases t.resolve p with
  | error e => simp
  | ok target => cases target <;> simp [Target.spot]

theorem takes_of_place (placed : t.place? p = some names) : t.Takes names := by
  rcases place?_eq_some.mp placed with ⟨content, resolved⟩ | resolved
  · obtain ⟨filled, inside, found⟩ := resolve_holds resolved
    refine ⟨filled, inside, fun entry found' => ⟨content, ?_⟩⟩
    rw [found] at found'
    exact (Option.some.inj found').symm
  · obtain ⟨filled, inside, found⟩ := resolve_holds resolved
    refine ⟨filled, inside, fun entry found' => ?_⟩
    rw [found] at found'
    cases found'

theorem resolve_file : t.resolve p = .ok (.file names content) ↔
    t.place? p = some names ∧ t.content? names = some content := by
  constructor
  · intro resolved
    obtain ⟨-, -, found⟩ := resolve_holds resolved
    refine ⟨place?_eq_some.mpr (Or.inl ⟨content, resolved⟩), ?_⟩
    rw [content?, found]
  · rintro ⟨placed, held⟩
    unfold content? at held
    rcases place?_eq_some.mp placed with ⟨content', resolved⟩ | resolved
    · obtain ⟨-, -, found⟩ := resolve_holds resolved
      rw [found] at held
      cases held
      exact resolved
    · obtain ⟨-, -, found⟩ := resolve_holds resolved
      rw [found] at held
      cases held

section Put

/-- How a walk went on, apart from what a file holds and whether it is there. -/
def view : Except FileError Walk → Option (Nat × List Name × Bool)
  | .ok w => some (w.links, w.place.spot)
  | .error _ => none

variable (takes : t.Takes names) (content : ByteArray)
include takes

theorem follow_put {jump jump' : Walk → Path → Except FileError Walk}
    (jumps : ∀ w target, view (jump' w target) = view (jump w target)) {w w' : Walk}
    (alike : view (.ok w') = view (.ok w)) (piece : Name) :
    view ((t.put names (.file content)).follow jump' w' piece) =
      view (t.follow jump w piece) := by
  obtain ⟨links, place⟩ := w
  obtain ⟨links', place'⟩ := w'
  obtain ⟨rfl, spots⟩ := Prod.mk.inj (Option.some.inj alike)
  unfold follow
  -- Where no directory was reached, nothing is followed.
  cases place with
  | file others old => cases place' <;> first | rfl | cases spots
  | vacant others => cases place' <;> first | rfl | cases spots
  | directory dir =>
    cases place' with
    | file others old => cases spots
    | vacant others => cases spots
    | directory dir' =>
      obtain rfl : dir' = dir := (Prod.mk.inj spots).1
      dsimp only
      split
      · rfl
      · split
        · rfl
        · split
          · rfl
          · rw [look?_put takes]
            by_cases here : dir' ++ [piece] = names
            · rw [if_pos here, here]
              cases found : t.look? names with
              | none => rfl
              | some entry =>
                obtain ⟨old, rfl⟩ := takes.free entry found
                rfl
            · rw [if_neg here]
              split
              · rfl
              · rfl
              · rfl
              · split
                · rfl
                · exact jumps _ _

omit takes in
theorem view_foldlM {f g : Walk → Name → Except FileError Walk}
    (steps : ∀ w w' piece, view (.ok w') = view (.ok w) → view (g w' piece) = view (f w piece))
    (pieces : List Name) {w w' : Walk} (alike : view (.ok w') = view (.ok w)) :
    view (pieces.foldlM g w') = view (pieces.foldlM f w) := by
  induction pieces using List.reverseRecOn with
  | nil => exact alike
  | append_singleton front piece ih =>
    rw [foldlM_concat, foldlM_concat]
    cases reached : front.foldlM f w with
    | error e =>
      cases reached' : front.foldlM g w' with
      | error e' => rfl
      | ok next' =>
        rw [reached, reached'] at ih
        cases ih
    | ok next =>
      cases reached' : front.foldlM g w' with
      | error e' =>
        rw [reached, reached'] at ih
        cases ih
      | ok next' =>
        rw [reached, reached'] at ih
        exact steps next next' piece ih

theorem walk_put (depth : Nat) (w : Walk) (p : Path) :
    view ((t.put names (.file content)).walk depth w p) = view (t.walk depth w p) := by
  induction depth generalizing w p with
  | zero => rfl
  | succ depth ih =>
    unfold walk
    split
    · rfl
    · apply view_foldlM _ _ rfl
      exact fun w w' piece alike => follow_put takes content ih alike piece

omit takes in
theorem place?_eq_some_view : t.place? p = some names ↔ p.length ≤ maxPathSize ∧
    t.isDirectory (t.start p) = true ∧ ∃ links,
      view (t.walk (maxLinks + 1) ⟨maxLinks, .directory (t.start p)⟩ p) =
        some (links, names, false) := by
  rw [place?_eq_some_spot]
  constructor
  · rintro ⟨target, resolved, spot⟩
    obtain ⟨short, based, w, walked, rfl⟩ := resolve_ok.mp resolved
    rw [walked, view, spot]
    exact ⟨short, based, w.links, rfl⟩
  · rintro ⟨short, based, links, seen⟩
    cases walked : t.walk (maxLinks + 1) ⟨maxLinks, .directory (t.start p)⟩ p with
    | error e =>
      rw [walked] at seen
      cases seen
    | ok w =>
      rw [walked] at seen
      refine ⟨w.place, resolve_ok.mpr ⟨short, based, w, walked, rfl⟩, ?_⟩
      exact (Prod.mk.inj (Option.some.inj seen)).2

theorem place?_put (p : Path) : (t.put names (.file content)).place? p = t.place? p := by
  have start : (t.put names (.file content)).start p = t.start p := by
    unfold FileTree.start
    rw [base_put]
  apply Option.ext
  intro others
  rw [place?_eq_some_view, place?_eq_some_view, start, isDirectory_put takes,
    walk_put takes]

end Put

theorem file?_put (takes : t.Takes names) (content : ByteArray) (p : Path) :
    (t.put names (.file content)).file? p =
      if t.place? p = some names then some content else t.file? p := by
  unfold file?
  rw [place?_put takes]
  cases t.place? p with
  | none => rfl
  | some others => simp [content?_put takes]

theorem decode_toUTF8 (text : Text) : decode (String.ofList text).toUTF8 = .ok text := by
  unfold decode
  have valid : String.fromUTF8? (String.ofList text).toUTF8 = some (String.ofList text) := by
    unfold String.fromUTF8?
    rw [String.toUTF8_eq_toByteArray, dif_pos (String.ofList text).isValidUTF8]
    rfl
  rw [valid]
  simp

theorem readText_ok {text : Text} :
    t.readText p = .ok text ↔ ∃ content, t.file? p = some content ∧ decode content = .ok text := by
  unfold readText file?
  constructor
  · intro read
    cases resolved : t.resolve p with
    | error e => simp [resolved] at read
    | ok target =>
      cases target with
      | directory dir => simp [resolved] at read
      | vacant names => simp [resolved] at read
      | file names content =>
        obtain ⟨placed, held⟩ := resolve_file.mp resolved
        rw [resolved] at read
        exact ⟨content, by simp [placed, held], read⟩
  · rintro ⟨content, held, decoded⟩
    obtain ⟨names, placed, held⟩ := Option.bind_eq_some_iff.mp held
    rw [resolve_file.mpr ⟨placed, held⟩]
    exact decoded

theorem file?_congr {t' : FileTree} (place : t'.place? p = t.place? p)
    (kept : ∀ names, t.place? p = some names → t'.look? names = t.look? names) :
    t'.file? p = t.file? p := by
  unfold file?
  rw [place]
  cases placed : t.place? p with
  | none => rfl
  | some names =>
    unfold content?
    simp only [Option.bind_some, kept names placed]

theorem readText_ok_congr {t' : FileTree} (same : t'.file? p = t.file? p) {text : Text} :
    t'.readText p = .ok text ↔ t.readText p = .ok text := by
  rw [readText_ok, readText_ok, same]

theorem same_of_readText {text : Text} (read : t.readText p = .ok text) : t.Same p p := by
  obtain ⟨content, held, -⟩ := readText_ok.mp read
  obtain ⟨names, placed, -⟩ := Option.bind_eq_some_iff.mp held
  exact ⟨by simp [placed], rfl⟩

theorem readText_place (placed : t.place? p = some names) :
    t.readText p = match t.content? names with
      | some content => decode content
      | none => .error .notFound := by
  unfold readText
  rcases place?_eq_some.mp placed with ⟨content, resolved⟩ | resolved
  · rw [(resolve_file.mp resolved).2, resolved]
  · obtain ⟨-, -, found⟩ := resolve_holds resolved
    rw [content?, found, resolved]

theorem Same.readText (same : t.Same p q) : t.readText p = t.readText q := by
  obtain ⟨names, placed⟩ := Option.isSome_iff_exists.mp same.1
  rw [readText_place placed, readText_place (same.2 ▸ placed)]

theorem writeText_ok {text : Text} {t' : FileTree} : t.writeText p text = .ok t' ↔
    ∃ names, t.place? p = some names ∧ t' = t.put names (.file (String.ofList text).toUTF8) := by
  unfold writeText place?
  cases t.resolve p with
  | error e => simp
  | ok target => cases target <;> simp [eq_comm]

/-- The way of a path: the pieces up to the last one lead to a directory, and the last one is a
name in it. -/
structure Leads (t : FileTree) (p : Path) (front dir : List Name) (name : Name) (links : Nat) :
    Prop where
  parts : p.parts = front ++ [name]
  short : p.length ≤ maxPathSize
  based : t.isDirectory (t.start p) = true
  reached : front.foldlM (t.follow (t.walk maxLinks)) ⟨maxLinks, .directory (t.start p)⟩ =
    .ok ⟨links, .directory dir⟩
  proper : Path.IsName name

theorem Leads.ne_nil (way : t.Leads p front dir name links) : p ≠ [] := by
  rintro rfl
  have last := congrArg List.getLast? way.parts
  rw [List.getLast?_concat] at last
  exact way.proper.ne_nil (Option.some.inj last).symm

theorem Leads.resolve (way : t.Leads p front dir name links) {target : Target} :
    t.resolve p = .ok target ↔ ∃ w,
      t.follow (t.walk maxLinks) ⟨links, .directory dir⟩ name = .ok w ∧ w.place = target := by
  have walked : t.walk (maxLinks + 1) ⟨maxLinks, .directory (t.start p)⟩ p =
      t.follow (t.walk maxLinks) ⟨links, .directory dir⟩ name := by
    rw [walk, if_neg (by simpa using way.ne_nil), way.parts, foldlM_concat, way.reached]
    rfl
  rw [resolve_ok, walked]
  exact ⟨fun h => h.2.2, fun h => ⟨way.short, way.based, h⟩⟩

theorem exists_leads (placed : t.place? p = some names) :
    ∃ front dir name links, t.Leads p front dir name links := by
  obtain ⟨target, resolved, spot⟩ := place?_eq_some_spot.mp placed
  obtain ⟨short, based, w, walked, rfl⟩ := resolve_ok.mp resolved
  unfold walk at walked
  split at walked
  · cases walked
  · obtain ⟨front, name, parts⟩ : ∃ front name, p.parts = front ++ [name] :=
      (List.eq_nil_or_concat' _).resolve_left (List.splitOn_ne_nil Path.slash p)
    rw [parts] at walked
    obtain ⟨next, reached, last⟩ := foldlM_concat_ok.mp walked
    cases follow_ok.mp last with
    | void void => cases spot
    | up => cases spot
    | vacant proper => exact ⟨_, _, _, _, parts, short, based, reached, proper⟩
    | file proper => exact ⟨_, _, _, _, parts, short, based, reached, proper⟩
    | directory => cases spot
    | link proper => exact ⟨_, _, _, _, parts, short, based, reached, proper⟩

/-- The last piece of the path is the name of a link. -/
def IsLink (t : FileTree) (p : Path) : Prop :=
  ∃ front dir name links target, t.Leads p front dir name links ∧
    t.look? (dir ++ [name]) = some (.link target)

theorem Leads.place (way : t.Leads p front dir name links) (placed : t.place? p = some names)
    (bare : ¬ t.IsLink p) : names = dir ++ [name] := by
  obtain ⟨target, resolved, spot⟩ := place?_eq_some_spot.mp placed
  obtain ⟨w, followed, rfl⟩ := way.resolve.mp resolved
  cases follow_ok.mp followed with
  | void void => cases spot
  | up => cases spot
  | vacant proper fits found => exact (Prod.mk.inj spot).1.symm
  | file proper fits found => exact (Prod.mk.inj spot).1.symm
  | directory => cases spot
  | link proper fits found => exact absurd ⟨_, _, _, _, _, way, found⟩ bare

def more (k : Nat) (w : Walk) : Walk := ⟨w.links + k, w.place⟩

theorem Follows.more {jump : Walk → Path → Except FileError Walk} {k : Nat} {w w' : Walk}
    {piece : Name}
    (jumps : ∀ w target w', jump w target = .ok w' → jump (more k w) target = .ok (more k w'))
    (follows : Follows t jump w piece w') :
    Follows t jump (FileTree.more k w) piece (FileTree.more k w') := by
  cases follows with
  | void void => exact .void void
  | up => exact .up
  | vacant proper fits found => exact .vacant proper fits found
  | file proper fits found => exact .file proper fits found
  | directory proper fits found => exact .directory proper fits found
  | @link links dir piece target w proper fits found jumped =>
    have enough : FileTree.more k ⟨links + 1, .directory dir⟩ =
        ⟨links + k + 1, .directory dir⟩ := by
      rw [FileTree.more, Nat.add_right_comm]
    rw [enough]
    exact .link proper fits found (jumps _ _ _ jumped)

theorem walk_more (k : Nat) {depth : Nat} {w w' : Walk} (walked : t.walk depth w p = .ok w') :
    t.walk depth (more k w) p = .ok (more k w') := by
  induction depth generalizing w p w' with
  | zero => cases walked
  | succ depth ih =>
    unfold walk at walked ⊢
    split at walked
    · cases walked
    · rename_i filled
      rw [if_neg filled]
      have step (w v : Walk) (piece : Name) (w' : Walk) (related : v = more k w)
          (followed : t.follow (t.walk depth) w piece = .ok w') :
          ∃ v', t.follow (t.walk depth) v piece = .ok v' ∧ v' = more k w' := by
        rw [related]
        refine ⟨_, follow_ok.mpr ((follow_ok.mp followed).more ?_), rfl⟩
        exact fun w target w' jumped => ih jumped
      obtain ⟨v', walked', rfl⟩ := foldlM_related step rfl walked
      exact walked'

theorem place?_of_leads {front' : List Name} {links' : Nat} (le : links ≤ links')
    (way : t.Leads p front dir name links) (way' : t.Leads q front' dir name links')
    (placed : t.place? p = some names) : t.place? q = some names := by
  obtain ⟨target, resolved, spot⟩ := place?_eq_some_spot.mp placed
  obtain ⟨w, followed, rfl⟩ := way.resolve.mp resolved
  have further : t.follow (t.walk maxLinks) (more (links' - links) ⟨links, .directory dir⟩) name =
      .ok (more (links' - links) w) :=
    follow_ok.mpr ((follow_ok.mp followed).more fun w target w' => walk_more _)
  rw [more, Nat.add_sub_cancel' le] at further
  exact place?_eq_some_spot.mpr ⟨w.place, way'.resolve.mpr ⟨_, further, rfl⟩, spot⟩

/-- Two paths to one name in one directory lead to the same place, if both lead to a place. -/
theorem same_of_leads {front' : List Name} {links' : Nat} {names' : List Name}
    (way : t.Leads p front dir name links) (way' : t.Leads q front' dir name links')
    (placed : t.place? p = some names) (placed' : t.place? q = some names') : t.Same p q := by
  refine ⟨by simp [placed], ?_⟩
  rcases Nat.le_total links links' with le | le
  · rw [placed, place?_of_leads le way way' placed]
  · rw [placed', place?_of_leads le way' way placed']

end FileTree

end ScriptLint
