import Mathlib.Data.List.Nodup

/-!
Lists without repetitions or in some order, and traversals that may fail.
-/
namespace ScriptLint

theorem pairwise_cases {α : Type} {r : α → α → Prop} {xs : List α} (pairs : xs.Pairwise r) {a b : α}
    (left : a ∈ xs) (right : b ∈ xs) : a = b ∨ r a b ∨ r b a := by
  obtain ⟨i, boundI, rfl⟩ := List.mem_iff_getElem.mp left
  obtain ⟨j, boundJ, rfl⟩ := List.mem_iff_getElem.mp right
  rw [List.pairwise_iff_getElem] at pairs
  rcases Nat.lt_trichotomy i j with before | same | after
  · exact Or.inr (Or.inl (pairs i j boundI boundJ before))
  · subst same
    exact Or.inl rfl
  · exact Or.inr (Or.inr (pairs j i boundJ boundI after))

theorem nodup_eraseDups {α : Type} [BEq α] [LawfulBEq α] (xs : List α) : xs.eraseDups.Nodup := by
  induction size : xs.length using Nat.strongRecOn generalizing xs with
  | ind n ih =>
    cases xs with
    | nil => exact List.nodup_nil
    | cons x xs =>
      rw [List.eraseDups_cons, List.nodup_cons]
      refine ⟨by simp, ih _ ?_ _ rfl⟩
      have shorter := List.length_filter_le (fun b => !b == x) xs
      rw [← size, List.length_cons]
      omega

theorem eraseDups_perm {α : Type} [BEq α] [LawfulBEq α] {xs ys : List α} (same : xs.Perm ys) :
    xs.eraseDups.Perm ys.eraseDups := by
  rw [List.perm_ext_iff_of_nodup (nodup_eraseDups xs) (nodup_eraseDups ys)]
  intro x
  rw [List.mem_eraseDups, List.mem_eraseDups, same.mem_iff]

theorem eraseDups_increasing {xs : List Nat} (sorted : xs.Pairwise (· ≤ ·)) :
    xs.eraseDups.Pairwise (· < ·) := by
  induction size : xs.length using Nat.strongRecOn generalizing xs with
  | ind n ih =>
    cases xs with
    | nil => exact List.Pairwise.nil
    | cons x xs =>
      obtain ⟨least, rest⟩ := List.pairwise_cons.mp sorted
      have shorter := List.length_filter_le (fun b => !b == x) xs
      rw [List.length_cons] at size
      rw [List.eraseDups_cons, List.pairwise_cons]
      refine ⟨?_, ih _ (by omega) (rest.sublist List.filter_sublist) rfl⟩
      intro y member
      obtain ⟨later, other⟩ := List.mem_filter.mp (List.mem_eraseDups.mp member)
      have least := least y later
      have other : y ≠ x := by simpa using other
      omega

theorem filter_of_nodup_map {α β : Type} [DecidableEq β] {xs : List α} {f : α → β} {b : β}
    (once : (xs.map f).Nodup) (member : b ∈ xs.map f) : ∃ x, xs.filter (f · = b) = [x] := by
  induction xs with
  | nil => cases member
  | cons x xs ih =>
    obtain ⟨new, rest⟩ := List.nodup_cons.mp once
    by_cases here : f x = b
    · refine ⟨x, ?_⟩
      rw [List.filter_cons_of_pos (by simpa using here), List.cons_eq_cons,
        List.filter_eq_nil_iff]
      refine ⟨rfl, ?_⟩
      intro y inside same
      rw [here, ← of_decide_eq_true same] at new
      exact new (List.mem_map_of_mem inside)
    · rw [List.filter_cons_of_neg (by simpa using here)]
      refine ih rest ?_
      exact (List.mem_cons.mp member).resolve_left (Ne.symm here)

theorem filter_mem_eq_of_sublist {α : Type} [DecidableEq α] {xs ys : List α} (once : ys.Nodup)
    (inside : xs.Sublist ys) : ys.filter (· ∈ xs) = xs := by
  have kept : xs.Sublist (ys.filter (· ∈ xs)) := by
    have own : xs.filter (· ∈ xs) = xs := by
      rw [List.filter_eq_self]
      intro x member
      exact decide_eq_true member
    have both := inside.filter (· ∈ xs)
    rwa [own] at both
  have same : xs.Perm (ys.filter (· ∈ xs)) := by
    rw [List.perm_ext_iff_of_nodup (once.sublist inside) (once.filter _)]
    intro x
    simpa using fun member => inside.subset member
  exact (kept.eq_of_length same.length_eq).symm

theorem findIdx?_of_nodup {α : Type} {xs : List α} {p : α → Bool} {n : Nat} {a : α}
    (nodup : xs.Nodup) (here : xs[n]? = some a) (own : ∀ x, p x = true ↔ x = a) :
    xs.findIdx? p = some n := by
  obtain ⟨bound, same⟩ := List.getElem?_eq_some_iff.mp here
  refine List.findIdx?_eq_some_iff_getElem.mpr ⟨bound, (own _).mpr same, ?_⟩
  intro j before found
  have equal : xs[j] = xs[n] := ((own _).mp found).trans same.symm
  have index := (nodup.getElem_inj_iff).mp equal
  omega

theorem map_eq_of_mapM {α β ε : Type} {f : α → Except ε β} {xs : List α} {ys : List β}
    (made : xs.mapM f = .ok ys) : xs.map f = ys.map .ok := by
  induction xs generalizing ys with
  | nil =>
    cases made
    rfl
  | cons x xs ih =>
    rw [List.mapM_cons] at made
    cases head : f x with
    | error e =>
      rw [head] at made
      cases made
    | ok y =>
      cases tail : xs.mapM f with
      | error e =>
        rw [head, tail] at made
        cases made
      | ok zs =>
        rw [head, tail] at made
        cases made
        rw [List.map_cons, List.map_cons, head, ih tail]

theorem mem_of_mapM {α β ε : Type} {f : α → Except ε β} {xs : List α} {ys : List β}
    (made : xs.mapM f = .ok ys) {y : β} (member : y ∈ ys) : ∃ x ∈ xs, f x = .ok y := by
  have result : Except.ok y ∈ xs.map f := by
    rw [map_eq_of_mapM made]
    exact List.mem_map_of_mem member
  simpa using result

theorem map_of_mapM {α β ε : Type} {f : α → Except ε β} {g : β → α} {xs : List α} {ys : List β}
    (made : xs.mapM f = .ok ys) (inverse : ∀ x y, f x = .ok y → g y = x) : ys.map g = xs := by
  have results := map_eq_of_mapM made
  clear made
  induction xs generalizing ys with
  | nil =>
    have empty : ys = [] := by simpa using results.symm
    rw [empty, List.map_nil]
  | cons x xs ih =>
    cases ys with
    | nil => simp at results
    | cons y ys =>
      rw [List.map_cons, List.map_cons, List.cons.injEq] at results
      rw [List.map_cons, inverse x y results.1, ih results.2]

theorem filterMap_of_mapM {α β γ ε : Type} {f : α → Except ε β} {g : β → Option γ}
    {h : α → Option γ} {xs : List α} {ys : List β} (made : xs.mapM f = .ok ys)
    (same : ∀ x y, f x = .ok y → g y = h x) : ys.filterMap g = xs.filterMap h := by
  have results := map_eq_of_mapM made
  clear made
  induction xs generalizing ys with
  | nil =>
    have empty : ys = [] := by simpa using results.symm
    rw [empty]
    rfl
  | cons x xs ih =>
    cases ys with
    | nil => simp at results
    | cons y ys =>
      rw [List.map_cons, List.map_cons, List.cons.injEq] at results
      rw [List.filterMap_cons, List.filterMap_cons, same x y results.1, ih results.2]

theorem mapM_eq_ok {α β ε : Type} {f : α → Except ε β} {g : α → β} {xs : List α}
    (each : ∀ x ∈ xs, f x = .ok (g x)) : xs.mapM f = .ok (xs.map g) := by
  induction xs with
  | nil => rfl
  | cons x xs ih =>
    obtain ⟨first, others⟩ := List.forall_mem_cons.mp each
    rw [List.mapM_cons, first, ih others]
    rfl

theorem error_of_mapM {α β ε : Type} {f : α → Except ε β} {xs : List α} {e : ε}
    (failed : xs.mapM f = .error e) : ∃ x ∈ xs, f x = .error e := by
  induction xs with
  | nil => cases failed
  | cons x xs ih =>
    rw [List.mapM_cons] at failed
    cases head : f x with
    | error e' =>
      rw [head] at failed
      cases failed
      exact ⟨x, List.mem_cons_self, head⟩
    | ok y =>
      cases tail : xs.mapM f with
      | error e' =>
        rw [head, tail] at failed
        cases failed
        obtain ⟨x', member, found⟩ := ih tail
        exact ⟨x', List.mem_cons_of_mem _ member, found⟩
      | ok ys =>
        rw [head, tail] at failed
        cases failed

theorem filter_zipIdx {α : Type} {xs : List α} {k : Nat} {x : α} (here : xs[k]? = some x)
    (p : α → Bool) (n : Nat) :
    (xs.zipIdx n).filter (fun v => p v.1 && v.2 == n + k) = if p x then [(x, n + k)] else [] := by
  induction xs generalizing k n with
  | nil => cases here
  | cons y xs ih =>
    rw [List.zipIdx_cons, List.filter_cons]
    cases k with
    | zero =>
      obtain rfl : y = x := by simpa using here
      have later : (xs.zipIdx (n + 1)).filter (fun v => p v.1 && v.2 == n + 0) = [] := by
        rw [List.filter_eq_nil_iff]
        intro v member
        have := (List.mem_zipIdx member).1
        simp only [Bool.and_eq_true, beq_iff_eq, not_and]
        omega
      rw [later]
      simp
    | succ k =>
      have other : (p y && n == n + (k + 1)) = false := by
        rw [Bool.and_eq_false_iff]
        exact Or.inr (beq_false_of_ne (by omega))
      rw [other]
      have rest := ih (by simpa using here) (n + 1)
      rw [show n + 1 + k = n + (k + 1) by omega] at rest
      simpa using rest

theorem filterMap_numbers {α : Type} {xs : List α} {numbered : List (α × Nat)}
    (own : ∀ x ∈ numbered, x ∈ xs.zipIdx) :
    (numbered.map Prod.snd).filterMap (xs[·]?) = numbered.map Prod.fst := by
  rw [List.filterMap_map, ← List.filterMap_eq_map]
  apply List.filterMap_congr
  intro x member
  exact List.mem_zipIdx_iff_getElem?.mp (own x member)

theorem eq_flatMap_of_cons {α β : Type} {f : α → List β} {g : List α → List β} (nil : g [] = [])
    (cons : ∀ x xs, g (x :: xs) = f x ++ g xs) (xs : List α) : g xs = xs.flatMap f := by
  induction xs with
  | nil => exact nil
  | cons x xs ih => rw [cons, ih, List.flatMap_cons]

theorem flatMap_zip {α β γ : Type} {xs : List α} {ys : List β} {κ : Type} {f : α → κ} {g : β → κ}
    (same : ys.map g = xs.map f) {h : β → List γ} {k : α × β → γ}
    (single : ∀ x ∈ xs, ∀ y, g y = f x → h y = [k (x, y)]) :
    ys.flatMap h = (xs.zip ys).map k := by
  induction xs generalizing ys with
  | nil =>
    rw [List.map_nil, List.map_eq_nil_iff] at same
    rw [same]
    rfl
  | cons x xs ih =>
    cases ys with
    | nil => cases same
    | cons y ys =>
      obtain ⟨head, tail⟩ := List.cons.inj same
      rw [List.flatMap_cons, single x List.mem_cons_self y head,
        ih tail fun x member => single x (List.mem_cons_of_mem _ member)]
      rfl

theorem pair_numbers {α : Type} {xs : List α} {x y : α × Nat} (pair : [x, y] <:+: xs.zipIdx) :
    y.2 = x.2 + 1 := by
  obtain ⟨front, back, whole⟩ := pair
  have first : xs.zipIdx[front.length]? = some x := by
    rw [← whole]
    simp
  have second : xs.zipIdx[front.length + 1]? = some y := by
    rw [← whole]
    simp
  rw [List.getElem?_zipIdx] at first second
  obtain ⟨a, -, rfl⟩ := Option.map_eq_some_iff.mp first
  obtain ⟨b, -, rfl⟩ := Option.map_eq_some_iff.mp second
  exact (Nat.add_assoc ..).symm

theorem split_concat {α : Type} {xs front back : List α} {a x : α}
    (split : xs ++ [a] = front ++ x :: back) :
    (back = [] ∧ xs = front ∧ a = x) ∨ ∃ more, back = more ++ [a] ∧ xs = front ++ x :: more := by
  rcases List.eq_nil_or_concat back with rfl | ⟨more, last, rfl⟩
  · obtain ⟨whole, same⟩ := List.append_inj' split rfl
    exact .inl ⟨rfl, whole, List.singleton_inj.mp same⟩
  · have parts : xs ++ [a] = (front ++ x :: more) ++ [last] := by simpa using split
    obtain ⟨whole, same⟩ := List.append_inj' parts rfl
    exact .inr ⟨more, by simpa using same.symm, whole⟩

theorem split_pair {α : Type} {xs : List α} {k : Nat} {a b : α} (first : xs[k]? = some a)
    (second : xs[k + 1]? = some b) : ∃ front back, xs = front ++ a :: b :: back := by
  induction xs generalizing k with
  | nil => cases first
  | cons x xs ih =>
    cases k with
    | zero =>
      obtain ⟨rest, rfl⟩ : ∃ rest, xs = b :: rest := by
        cases xs with
        | nil => cases second
        | cons y xs =>
          obtain rfl : y = b := by simpa using second
          exact ⟨xs, rfl⟩
      obtain rfl : x = a := by simpa using first
      exact ⟨[], rest, rfl⟩
    | succ k =>
      obtain ⟨front, back, rfl⟩ := ih first second
      exact ⟨x :: front, back, rfl⟩

end ScriptLint
