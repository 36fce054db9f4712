import ScriptLint.Linter
import ScriptLint.Proofs.Source.Lines

/-!
The first error of a concrete tree.

The search for it passes over children that carry no mark of an error. When every mark is right,
nothing is missed that way: what is found is the first broken node of the whole tree in pre-order,
and a text that is refused is refused with the line of that node.
-/
namespace ScriptLint

theorem breaksBy_cons (c : Char) (t : Text) (n : Nat) :
    breaksBy (c :: t) n =
      (if c = '\n' ∧ 0 < n then 1 else 0) + breaksBy t (n - c.utf8Size) := by
  have later : (laterLineStarts (0 + c.utf8Size) t).countP (· ≤ n) =
      breaksBy t (n - c.utf8Size) := by
    rw [Nat.zero_add, ← Nat.add_zero c.utf8Size, laterLineStarts_shift, List.countP_map, breaksBy,
      Nat.add_zero]
    apply List.countP_congr
    intro k member
    have positive := (laterLineStarts_bounds member).1
    simp only [Function.comp_apply, decide_eq_true_eq]
    omega
  rw [breaksBy, laterLineStarts_cons]
  by_cases broken : c = '\n'
  · subst broken
    have size : Char.utf8Size '\n' = 1 := rfl
    rw [if_pos rfl, List.countP_cons, later, size, Nat.add_comm]
    simp [Nat.succ_le_iff]
  · rw [if_neg broken, later, if_neg (by simp [broken]), Nat.zero_add]

namespace Concrete

theorem rowOf_eq (n : Nat) (t : Text) : rowOf n t = breaksBy t n := by
  induction t generalizing n with
  | nil => cases n <;> rfl
  | cons c t ih =>
    cases n with
    | zero => rw [rowOf, breaksBy_zero]
    | succ n => simp [rowOf, breaksBy_cons, ih]

mutual
def preorder : Concrete → List ConcreteInfo
  | node info children => info :: preorderOf children

def preorderOf : List Concrete → List ConcreteInfo
  | [] => []
  | n :: ns => preorder n ++ preorderOf ns
end

/-- What the grammar could not read, or what it had to put in. -/
def isBroken (info : ConcreteInfo) : Bool := info.isError || info.isMissing

/-- A node carries the mark of an error exactly when it, or a node below it, is broken. -/
inductive Marked : Concrete → Prop where
  | node {info : ConcreteInfo} {children : List Concrete}
    (mark : info.hasError = true ↔ ∃ m ∈ (node info children).preorder, isBroken m = true)
    (below : ∀ c ∈ children, Marked c) : Marked (.node info children)

theorem Marked.mark {n : Concrete} (marked : n.Marked) :
    n.info.hasError = true ↔ ∃ m ∈ n.preorder, isBroken m = true := by
  cases marked with
  | node mark _ => exact mark

theorem firstErrorIn?_eq {ns : List Concrete} (marked : ∀ n ∈ ns, n.Marked)
    (each : ∀ n ∈ ns, n.firstError? = (n.preorder.find? isBroken).map (·.span.start)) :
    firstErrorIn? ns = ((preorderOf ns).find? isBroken).map (·.span.start) := by
  induction ns with
  | nil => rfl
  | cons n ns ih =>
    rw [List.forall_mem_cons] at marked each
    have rest := ih marked.2 each.2
    rw [firstErrorIn?, preorderOf, List.find?_append, each.1, rest]
    cases found : n.preorder.find? isBroken with
    | some first =>
      have flagged := marked.1.mark.mpr
        ⟨first, List.mem_of_find?_eq_some found, List.find?_some found⟩
      rw [if_pos flagged]
      rfl
    | none => split <;> rfl

theorem firstError?_eq {n : Concrete} (marked : n.Marked) :
    n.firstError? = (n.preorder.find? isBroken).map (·.span.start) := by
  induction marked with
  | @node info children _ below ih =>
    rw [firstError?, preorder, List.find?_cons, firstErrorIn?_eq below ih, isBroken]
    cases info.isError || info.isMissing <;> rfl

/-- In a tree with right marks and one at the root, the line that is told is the line of the first
broken node in pre-order, and reading the text fails with that line. -/
theorem first_error_in_preorder {root : Concrete} (marked : root.Marked)
    (flagged : root.info.hasError = true) (text : Text) :
    ∃ before first after, root.preorder = before ++ first :: after ∧ isBroken first = true ∧
      (∀ m ∈ before, isBroken m = false) ∧
      root.firstErrorLine? text = some (1 + breaksBy text first.span.start) ∧
      ∀ grammar dialect globals, grammar dialect text = some root →
        SourceFile.parse grammar dialect text globals =
          .error (.brokenSource (1 + breaksBy text first.span.start)) := by
  have present : (root.preorder.find? isBroken).isSome :=
    List.find?_isSome.mpr (marked.mark.mp flagged)
  obtain ⟨first, found⟩ := Option.isSome_iff_exists.mp present
  obtain ⟨broken, before, after, split, earlier⟩ := List.find?_eq_some_iff_append.mp found
  have line : root.firstErrorLine? text = some (1 + breaksBy text first.span.start) := by
    rw [firstErrorLine?, firstError?_eq marked, found, Option.map_some, Option.map_some, rowOf_eq,
      Nat.add_comm]
  refine ⟨before, first, after, split, broken, ?_, line, ?_⟩
  · intro m member
    simpa using earlier m member
  · intro grammar dialect globals read
    simp [SourceFile.parse, read, flagged, line]

/-- A sound statement, one that lacks a name, and a parenthesis that belongs to nothing. -/
def brokenText : Text := "let a = 1;\nlet = 2\n)\n".toList

def brokenTree : Concrete :=
  let info (kind : String) (span : Span) (isError isMissing hasError : Bool) : ConcreteInfo :=
    { kind, span, isNamed := true, isError, isMissing, hasError, fields := [] }
  .node (info "program" ⟨0, 21⟩ false false true)
    [.node (info "lexical_declaration" ⟨0, 10⟩ false false false)
      [.node (info "identifier" ⟨4, 5⟩ false false false) []],
      .node (info "lexical_declaration" ⟨11, 18⟩ false false true)
        [.node (info "let" ⟨11, 14⟩ false false false) [],
          .node (info "identifier" ⟨14, 14⟩ false true true) []],
      .node (info "ERROR" ⟨19, 20⟩ true false true) []]

theorem brokenTree_marked : brokenTree.Marked := by
  have leaf (info : ConcreteInfo) (mark : info.hasError = isBroken info) : (node info []).Marked :=
    .node (by simp [preorder, preorderOf, mark]) (by simp)
  refine .node (by decide) ?_
  simp only [List.forall_mem_cons, List.not_mem_nil, false_implies, implies_true, and_true]
  refine ⟨.node (by decide) ?_, .node (by decide) ?_, leaf _ rfl⟩
  · simpa using leaf _ rfl
  · simpa using ⟨leaf _ rfl, leaf _ rfl⟩

theorem first_error_in_preorder_missing :
    brokenTree.Marked ∧ brokenTree.info.hasError = true ∧
      brokenTree.firstErrorLine? brokenText = some 2 ∧
      ∃ before first after, brokenTree.preorder = before ++ first :: after ∧
        isBroken first = true ∧ (∀ m ∈ before, isBroken m = false) ∧
        SourceFile.parse (fun _ _ => some brokenTree) .typeScript brokenText [] =
          .error (.brokenSource (1 + breaksBy brokenText first.span.start)) := by
  obtain ⟨before, first, after, split, broken, earlier, -, parse⟩ :=
    first_error_in_preorder brokenTree_marked rfl brokenText
  exact ⟨brokenTree_marked, rfl, rfl, before, first, after, split, broken, earlier,
    parse _ .typeScript [] rfl⟩

end Concrete

end ScriptLint
