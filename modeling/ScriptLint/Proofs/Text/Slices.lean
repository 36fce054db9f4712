import ScriptLint.Text.Basic

/-!
Slices of a text.

An offset divides a text exactly when it is the size of one of its prefixes. A slice is then the
piece between two prefixes, and the slices of neighbouring spans make up the slice of both.
-/
namespace ScriptLint

namespace Text

@[simp]
theorem size_nil : size [] = 0 := rfl

@[simp]
theorem size_cons (c : Char) (t : Text) : size (c :: t) = c.utf8Size + size t := rfl

@[simp]
theorem size_append (t u : Text) : size (t ++ u) = size t + size u := by
  induction t with
  | nil => simp
  | cons c t ih =>
    simp only [List.cons_append, size_cons, ih]
    omega

theorem size_eq_zero_iff {t : Text} : size t = 0 ↔ t = [] := by
  cases t with
  | nil => simp
  | cons c t =>
    have := c.utf8Size_pos
    simp only [size_cons, reduceCtorEq, iff_false]
    omega

theorem prefix_unique {p q r s : Text} (same : p ++ r = q ++ s) (sizes : size p = size q) :
    p = q ∧ r = s := by
  induction p generalizing q with
  | nil =>
    have empty : q = [] := size_eq_zero_iff.mp (by simpa using sizes.symm)
    subst q
    exact ⟨rfl, same⟩
  | cons c p ih =>
    cases q with
    | nil =>
      have := c.utf8Size_pos
      simp only [size_cons, size_nil] at sizes
      omega
    | cons d q =>
      simp only [List.cons_append, List.cons.injEq] at same
      obtain ⟨head, tail⟩ := same
      subst d
      obtain ⟨eq, rest⟩ := ih tail (by simpa using sizes)
      exact ⟨by rw [eq], rest⟩

theorem cut?_prefix (p r : Text) : cut? (size p) (p ++ r) = some (p, r) := by
  induction p with
  | nil => simp [cut?]
  | cons c p ih =>
    have pos := c.utf8Size_pos
    obtain ⟨n, total⟩ : ∃ n, size (c :: p) = n + 1 := ⟨size (c :: p) - 1, by simp; omega⟩
    have fits : c.utf8Size ≤ n + 1 := by simp only [size_cons] at total; omega
    have left : n + 1 - c.utf8Size = size p := by simp only [size_cons] at total; omega
    rw [total, List.cons_append, cut?, if_pos fits, left, ih]
    rfl

theorem cut?_eq_some_iff {n : Nat} {t p r : Text} :
    cut? n t = some (p, r) ↔ t = p ++ r ∧ size p = n := by
  constructor
  · intro found
    fun_induction cut? n t generalizing p r with
    | case1 t => simp_all
    | case2 n => simp at found
    | case3 n c t fits ih =>
      obtain ⟨⟨p', r'⟩, inner, eq⟩ := Option.map_eq_some_iff.mp found
      simp only [Prod.mk.injEq] at eq
      obtain ⟨rfl, rfl⟩ := eq
      obtain ⟨rfl, sizes⟩ := ih inner
      exact ⟨rfl, by simp only [size_cons]; omega⟩
    | case4 n c t no => simp at found
  · rintro ⟨rfl, rfl⟩
    exact cut?_prefix p r

theorem isBoundary_iff {n : Nat} {t : Text} :
    t.isBoundary n = true ↔ ∃ p r, t = p ++ r ∧ size p = n := by
  constructor
  · intro found
    obtain ⟨⟨p, r⟩, eq⟩ := Option.isSome_iff_exists.mp found
    exact ⟨p, r, cut?_eq_some_iff.mp eq⟩
  · rintro ⟨p, r, rfl, rfl⟩
    simp [isBoundary, cut?_prefix]

theorem slice_eq_of_parts {t p m r : Text} {s : Span} (whole : t = p ++ (m ++ r))
    (start : size p = s.start) (stop : size p + size m = s.stop) : t.slice s = m := by
  obtain ⟨first, last⟩ := s
  simp only at start stop
  subst whole start stop
  simp [slice, slice?, cut?_prefix]

theorem slice_parts {t : Text} {s : Span} (ordered : s.start ≤ s.stop)
    (first : t.isBoundary s.start = true) (last : t.isBoundary s.stop = true) :
    ∃ p r, t = p ++ (t.slice s ++ r) ∧ size p = s.start ∧ size p + size (t.slice s) = s.stop := by
  obtain ⟨p, r, whole, start⟩ := isBoundary_iff.mp first
  obtain ⟨q, u, whole', stop⟩ := isBoundary_iff.mp last
  -- The shorter of the two prefixes is a prefix of the longer one.
  have nested : p <+: q := by
    have hp : p <+: t := ⟨r, whole.symm⟩
    have hq : q <+: t := ⟨u, whole'.symm⟩
    rcases List.prefix_or_prefix_of_prefix hp hq with h | h
    · exact h
    · obtain ⟨m, rfl⟩ := h
      have none : m = [] := size_eq_zero_iff.mp (by simp only [size_append] at start; omega)
      simp [none]
  obtain ⟨m, rfl⟩ := nested
  rw [List.append_assoc] at whole'
  rw [size_append] at stop
  rw [slice_eq_of_parts whole' start stop]
  exact ⟨p, u, whole', start, stop⟩

theorem slice_bounds {t : Text} {s : Span} (filled : t.slice s ≠ []) :
    s.start ≤ s.stop ∧ t.isBoundary s.start = true ∧ t.isBoundary s.stop = true := by
  rw [slice, slice?] at filled
  split at filled
  · rename_i ordered
    cases first : cut? s.start t with
    | none => simp [first] at filled
    | some parts =>
      obtain ⟨p, rest⟩ := parts
      cases second : cut? (s.stop - s.start) rest with
      | none => simp [first, second] at filled
      | some parts =>
        obtain ⟨m, r⟩ := parts
        obtain ⟨rfl, start⟩ := cut?_eq_some_iff.mp first
        obtain ⟨rfl, width⟩ := cut?_eq_some_iff.mp second
        refine ⟨ordered, isBoundary_iff.mpr ⟨p, _, rfl, start⟩, isBoundary_iff.mpr ⟨p ++ m, r, ?_⟩⟩
        rw [List.append_assoc, size_append]
        exact ⟨rfl, by omega⟩
  · simp at filled

theorem slice_head_unique {t : Text} {a b d : Nat} {x y : Char} {xs ys : Text}
    (first : t.slice ⟨a, b⟩ = x :: xs) (second : t.slice ⟨a, d⟩ = y :: ys) : x = y := by
  obtain ⟨ordered, start, stop⟩ := slice_bounds (by rw [first]; simp : t.slice ⟨a, b⟩ ≠ [])
  obtain ⟨ordered', _, stop'⟩ := slice_bounds (by rw [second]; simp : t.slice ⟨a, d⟩ ≠ [])
  obtain ⟨p, r, whole, size, -⟩ := slice_parts ordered start stop
  obtain ⟨q, u, whole', size', -⟩ := slice_parts ordered' start stop'
  have same := (prefix_unique (whole.symm.trans whole') (size.trans size'.symm)).2
  rw [first, second] at same
  exact (List.cons.inj same).1

theorem size_slice {t : Text} {s : Span} (ordered : s.start ≤ s.stop)
    (first : t.isBoundary s.start = true) (last : t.isBoundary s.stop = true) :
    size (t.slice s) = s.stop - s.start := by
  obtain ⟨p, r, -, start, stop⟩ := slice_parts ordered first last
  omega

theorem before_append {p r : Text} {n : Nat} (size : p.size = n) : (p ++ r).before n = p := by
  subst size
  simp [before, cut?_prefix]

theorem after_append {p r : Text} {n : Nat} (size : p.size = n) : (p ++ r).after n = r := by
  subst size
  simp [after, cut?_prefix]

theorem before_size (t : Text) : t.before t.size = t := by
  have whole := @before_append t [] t.size rfl
  rwa [List.append_nil] at whole

theorem isBoundary_zero (t : Text) : t.isBoundary 0 = true :=
  isBoundary_iff.mpr ⟨[], t, rfl, rfl⟩

theorem isBoundary_size (t : Text) : t.isBoundary t.size = true :=
  isBoundary_iff.mpr ⟨t, [], (List.append_nil t).symm, rfl⟩

theorem boundary_parts {t : Text} {n : Nat} (boundary : t.isBoundary n = true) :
    t = t.before n ++ t.after n ∧ size (t.before n) = n := by
  obtain ⟨p, r, rfl, rfl⟩ := isBoundary_iff.mp boundary
  rw [before_append rfl, after_append rfl]
  exact ⟨rfl, rfl⟩

theorem boundary_le {t : Text} {n : Nat} (boundary : t.isBoundary n = true) : n ≤ size t := by
  obtain ⟨p, r, rfl, rfl⟩ := isBoundary_iff.mp boundary
  rw [size_append]
  omega

theorem slice_append {t : Text} {a b c : Nat} (ab : a ≤ b) (bc : b ≤ c)
    (ha : t.isBoundary a = true) (hb : t.isBoundary b = true) (hc : t.isBoundary c = true) :
    t.slice ⟨a, b⟩ ++ t.slice ⟨b, c⟩ = t.slice ⟨a, c⟩ := by
  obtain ⟨p, r, whole, start, stop⟩ := slice_parts (s := ⟨a, b⟩) ab ha hb
  obtain ⟨q, u, whole', start', stop'⟩ := slice_parts (s := ⟨b, c⟩) bc hb hc
  obtain ⟨eq, rest⟩ := prefix_unique (p := p ++ t.slice ⟨a, b⟩) (r := r) (q := q)
    (s := t.slice ⟨b, c⟩ ++ u) (by rw [List.append_assoc, ← whole, ← whole'])
    (by rw [size_append, stop, start'])
  simp only at start stop start' stop'
  refine (slice_eq_of_parts (p := p) (r := u) ?_ start ?_).symm
  · rw [List.append_assoc, ← rest, ← whole]
  · simp only [size_append]
    omega

end Text

end ScriptLint
