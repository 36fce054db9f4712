import ScriptLint.Proofs.Rules.ImportMoves

/-!
Line comments that move with imports.

A comment to the end of the line takes in whatever comes after it on its line. An edit that moves
imports keeps the code around such a comment exactly when a line ends behind it. Between groups and
in a group it always does; in a sorted run it depends on the gap that the import lands in front of,
and at the end of an edit on the text that follows.
-/
namespace ScriptLint.ImportPaths

def startsLine : Text → Bool
  | [] => true
  | c :: _ => c == '\n'

/-- The span ends with a comment that goes on to the end of the line. -/
def EndsInLineComment (file : SourceFile) (s : Span) : Prop :=
  ∃ c ∈ file.comments.toList, c.kind = .line ∧ s.start ≤ c.span.start ∧ c.span.stop = s.stop

instance (file : SourceFile) (s : Span) : Decidable (EndsInLineComment file s) :=
  inferInstanceAs (Decidable (∃ c ∈ file.comments.toList, _))

/-- A fragment of the file in an edited text. -/
structure Placement where
  before : Text
  fragment : Span
  after : Text

def placements (file : SourceFile) (after : Text) : Text → List Span → List Text → List Placement
  | _, [], _ => []
  | before, s :: spans, joints =>
    ⟨before, s, joints.headD [] ++ SourceFile.weave (spans.map file.slice) joints.tail ++ after⟩ ::
      placements file after (before ++ file.slice s ++ joints.headD []) spans joints.tail

/-- No code stands on the line behind a fragment that ends with a line comment. -/
def KeepsCode (file : SourceFile) (placed : List Placement) : Prop :=
  ∀ x ∈ placed, EndsInLineComment file x.fragment → startsLine x.after = true

instance (file : SourceFile) (placed : List Placement) : Decidable (KeepsCode file placed) :=
  inferInstanceAs (Decidable (∀ x ∈ placed, _))

/-- Whether the line ends behind a slot: in the gap after it, or after the last slot in the text
that follows. -/
def slotEndsLine (gaps : List Text) (after : Text) (k : Nat) : Bool :=
  match gaps[k]? with
  | some gap => gap.contains '\n'
  | none => startsLine after

theorem placements_text {file : SourceFile} {before after : Text} {spans : List Span}
    {joints : List Text} {x : Placement}
    (member : x ∈ placements file after before spans joints) :
    x.before ++ file.slice x.fragment ++ x.after =
      before ++ SourceFile.weave (spans.map file.slice) joints ++ after := by
  induction spans generalizing before joints with
  | nil => simp [placements] at member
  | cons s spans ih =>
    rw [List.map_cons, SourceFile.weave_cons]
    rcases List.mem_cons.mp member with here | later
    · subst here
      simp
    · rw [ih later]
      simp

theorem startsLine_append {t : Text} (solid : startsLine t = false) (u : Text) :
    startsLine (t ++ u) = false := by
  cases t with
  | nil => simp [startsLine] at solid
  | cons c t => exact solid

theorem startsLine_joint {joint rest : Text}
    (first : '\n' ∈ joint → joint.head? = some '\n')
    (solid : '\n' ∉ joint → startsLine rest = false) :
    startsLine (joint ++ rest) = joint.contains '\n' := by
  by_cases broken : '\n' ∈ joint
  · obtain ⟨tail, rfl⟩ := List.head?_eq_some_iff.mp (first broken)
    simp [startsLine]
  · rw [Bool.eq_false_iff.mpr (by simpa using broken : ¬ joint.contains '\n' = true)]
    cases joint with
    | nil => exact solid broken
    | cons c joint =>
      have other : c ≠ '\n' := by
        rintro rfl
        exact broken (by simp)
      simpa [startsLine] using other

theorem forall_getElem?_cons {α : Type} {x : α} {xs : List α} {P : Nat → α → Prop} :
    (∀ k y, (x :: xs)[k]? = some y → P k y) ↔
      P 0 x ∧ ∀ k y, xs[k]? = some y → P (k + 1) y := by
  constructor
  · intro all
    exact ⟨all 0 x rfl, fun k y found => all (k + 1) y found⟩
  · rintro ⟨head, tail⟩ k y found
    cases k with
    | zero =>
      obtain rfl : x = y := by simpa using found
      exact head
    | succ k => exact tail k y found

/-- Joints that hold a line break only at their start end a line where they hold one at all. -/
theorem keepsCode_iff {file : SourceFile} {before after : Text} {spans : List Span}
    {joints : List Text} (count : joints.length + 1 = spans.length)
    (first : ∀ joint ∈ joints, '\n' ∈ joint → joint.head? = some '\n')
    (solid : ∀ joint ∈ joints, '\n' ∉ joint → ∀ s ∈ spans, startsLine (file.slice s) = false) :
    KeepsCode file (placements file after before spans joints) ↔
      ∀ (k : Nat) (s : Span), spans[k]? = some s → EndsInLineComment file s →
        slotEndsLine joints after k = true := by
  induction spans generalizing before joints with
  | nil => simp at count
  | cons s spans ih =>
    rw [forall_getElem?_cons, KeepsCode, placements, List.forall_mem_cons]
    cases spans with
    | nil =>
      obtain rfl : joints = [] := List.length_eq_zero_iff.mp (by simpa using count)
      simp [placements, SourceFile.weave, slotEndsLine]
    | cons next spans =>
      cases joints with
      | nil => simp at count
      | cons joint joints =>
        refine and_congr ?_ ?_
        · -- The slot is followed by the joint and then by the next fragment.
          have followed : startsLine (joint ++
              (SourceFile.weave ((next :: spans).map file.slice) joints ++ after)) =
              joint.contains '\n' := by
            refine startsLine_joint (first joint (by simp)) fun unbroken => ?_
            rw [List.map_cons, SourceFile.weave_cons, List.append_assoc, List.append_assoc]
            exact startsLine_append (solid joint (by simp) unbroken next (by simp)) _
          simp only [List.headD_cons, List.tail_cons, List.append_assoc, slotEndsLine,
            List.getElem?_cons_zero, followed]
        · exact ih (by simpa using count)
            (fun joint member => first joint (List.mem_cons_of_mem _ member))
            fun joint member unbroken s inside => solid joint (List.mem_cons_of_mem _ member)
              unbroken s (List.mem_cons_of_mem _ inside)

def orderFragments (p : Plan) (r : ImportOrder) (file : SourceFile) (members : List Nat)
    (last : Nat) : List Span :=
  (Plan.sortEntries r (p.entries members)).map (Plan.movingSpan file last)

def orderGaps (p : Plan) (file : SourceFile) (members : List Nat) (last : Nat) : List Text :=
  (Piece.gaps ((p.entries members).map (piece file last))).map file.slice

def orderPlacements (p : Plan) (r : ImportOrder) (file : SourceFile) (members : List Nat)
    (last : Nat) (e : Edit) : List Placement :=
  placements file (file.text.after e.span.stop) (file.text.before e.span.start)
    (orderFragments p r file members last) (Plan.joints file last (p.entries members))

def groupFragments (p : Plan) (r : ImportOrder) (g : Grouping) (file : SourceFile) : List Span :=
  ((p.buckets r g).filter (!·.isEmpty)).flatten.map
    (Plan.movingSpan file (p.imports.length - 1))

def groupPlacements (p : Plan) (r : ImportOrder) (g : Grouping) (file : SourceFile) (e : Edit) :
    List Placement :=
  placements file (file.text.after e.span.stop) (file.text.before e.span.start)
    (groupFragments p r g file)
    (groupJoints ['\n', '\n'] ['\n'] ((p.buckets r g).filter (!·.isEmpty)))

theorem applyAll_singleton {text fixed : Text} {e : Edit}
    (applied : Edit.applyAll text [e] = .ok fixed) : fixed = Edit.splice text e := by
  simp only [Edit.applyAll] at applied
  split at applied
  · cases applied
    simp
  · simp at applied

section Edits

variable {p : Plan} {r : ImportOrder} {file : SourceFile} {e : Edit}

theorem orderEdit?_replacement {members : List Nat} {last : Nat}
    (final : members.getLast? = some last) (made : p.orderEdit? r file members = some e) :
    p.entries members ≠ [] ∧
      e.replacement = SourceFile.weave ((orderFragments p r file members last).map file.slice)
        (Plan.joints file last (p.entries members)) := by
  obtain ⟨span, last', covers, final', rfl⟩ := Plan.orderEdit?_some made
  cases final.symm.trans final'
  obtain ⟨first, -, head, -⟩ := editSpan?_some covers
  refine ⟨List.ne_nil_of_mem (List.mem_of_mem_head? head), ?_⟩
  rw [orderFragments, List.map_map]
  rfl

theorem regroupEdit?_replacement {g : Grouping} (grouped : p.grouping = some g)
    (made : p.regroupEdit? r file = some e) :
    e.replacement = SourceFile.weave ((groupFragments p r g file).map file.slice)
      (groupJoints ['\n', '\n'] ['\n'] ((p.buckets r g).filter (!·.isEmpty))) := by
  obtain ⟨g', span, grouped', covers, rfl⟩ := Plan.regroupEdit?_some made
  cases grouped.symm.trans grouped'
  have full : ∀ bucket ∈ (p.buckets r g).filter (!·.isEmpty), bucket ≠ [] := by
    intro bucket kept
    simpa using (List.mem_filter.mp kept).2
  rw [groupFragments, List.map_map]
  exact joinWith_joinWith _ _ _ full

theorem slotEndsLine_joints (p : Plan) (file : SourceFile) (members : List Nat) (last : Nat)
    (after : Text) (k : Nat) :
    slotEndsLine (Plan.joints file last (p.entries members)) after k =
      slotEndsLine (orderGaps p file members last) after k := by
  rw [joints_eq, orderGaps, slotEndsLine, slotEndsLine, List.getElem?_map, List.getElem?_map]
  cases (Piece.gaps ((p.entries members).map (piece file last)))[k]? with
  | none => rfl
  | some gap =>
    simp only [Option.map_some]
    by_cases broken : (file.slice gap).contains '\n' = true
    · rw [if_pos broken, broken]
      rfl
    · rw [if_neg broken]

theorem order_keeps_code_iff {members : List Nat} {last : Nat}
    (final : members.getLast? = some last) (made : p.orderEdit? r file members = some e)
    (solid : ∀ s ∈ orderFragments p r file members last, startsLine (file.slice s) = false) :
    KeepsCode file (orderPlacements p r file members last e) ↔
      ∀ (k : Nat) (s : Span), (orderFragments p r file members last)[k]? = some s →
        EndsInLineComment file s →
        slotEndsLine (orderGaps p file members last) (file.text.after e.span.stop) k = true := by
  obtain ⟨nonempty, -⟩ := orderEdit?_replacement final made
  have count : (Plan.joints file last (p.entries members)).length + 1 =
      (orderFragments p r file members last).length := by
    rw [joints_eq, List.length_map, Piece.length_gaps (by simpa using nonempty), List.length_map,
      orderFragments, List.length_map, Plan.sortEntries, List.length_mergeSort]
  have first : ∀ joint ∈ Plan.joints file last (p.entries members), '\n' ∈ joint →
      joint.head? = some '\n' := by
    rw [joints_eq]
    intro joint member broken
    obtain ⟨gap, -, rfl⟩ := List.mem_map.mp member
    split
    · rfl
    · rename_i unbroken
      rw [if_neg unbroken] at broken
      exact absurd (by simpa using broken) unbroken
  rw [orderPlacements, keepsCode_iff count first fun _ _ _ => solid]
  simp only [slotEndsLine_joints]

theorem groupJoints_break {α : Type} {groups : List (List α)} {joint : Text}
    (member : joint ∈ groupJoints ['\n', '\n'] ['\n'] groups) :
    '\n' ∈ joint ∧ joint.head? = some '\n' := by
  rcases mem_groupJoints member with rfl | rfl <;> simp

theorem group_keeps_code_iff (p : Plan) (r : ImportOrder) (g : Grouping) (file : SourceFile)
    (e : Edit) :
    KeepsCode file (groupPlacements p r g file e) ↔
      ∀ s, (groupFragments p r g file).getLast? = some s → EndsInLineComment file s →
        startsLine (file.text.after e.span.stop) = true := by
  by_cases empty : (p.buckets r g).filter (!·.isEmpty) = []
  · simp [groupPlacements, groupFragments, empty, placements, KeepsCode]
  have full : ∀ bucket ∈ (p.buckets r g).filter (!·.isEmpty), bucket ≠ [] := by
    intro bucket kept
    simpa using (List.mem_filter.mp kept).2
  have count : (groupJoints ['\n', '\n'] ['\n'] ((p.buckets r g).filter (!·.isEmpty))).length + 1 =
      (groupFragments p r g file).length := by
    rw [length_groupJoints _ _ empty full, groupFragments, List.length_map]
  rw [groupPlacements, keepsCode_iff count (fun _ member _ => (groupJoints_break member).2)
    fun _ member unbroken => absurd (groupJoints_break member).1 unbroken]
  constructor
  · intro each s final comment
    rw [List.getLast?_eq_getElem?] at final
    have slot := each _ s final comment
    rwa [slotEndsLine, List.getElem?_eq_none (by omega)] at slot
  · intro final k s found comment
    rw [slotEndsLine]
    split
    · rename_i joint here
      simpa using (groupJoints_break (List.mem_of_getElem? here)).1
    · -- Only the last slot has no joint behind it.
      rename_i none
      have bound := (List.getElem?_eq_some_iff.mp found).1
      have atEnd := List.getElem?_eq_none_iff.mp none
      refine final s ?_ comment
      rw [List.getLast?_eq_getElem?, ← found]
      congr 1
      omega

/-- When an edit that moves imports turns code into comments, and when it does not. A sorted run
keeps its code exactly when each import that ends with a line comment lands in front of a gap with a
line break, or at the end of the edit in front of a line break. In groups only the last import
counts. -/
theorem import_edits_keep_code_iff (p : Plan) (r : ImportOrder) (file : SourceFile) (e : Edit) :
    (∀ members last, members.getLast? = some last → p.orderEdit? r file members = some e →
      (∀ fixed, Edit.applyAll file.text [e] = .ok fixed →
        ∀ x ∈ orderPlacements p r file members last e,
          fixed = x.before ++ file.slice x.fragment ++ x.after) ∧
      ((∀ s ∈ orderFragments p r file members last, startsLine (file.slice s) = false) →
        (KeepsCode file (orderPlacements p r file members last e) ↔
          ∀ (k : Nat) (s : Span), (orderFragments p r file members last)[k]? = some s →
            EndsInLineComment file s →
            slotEndsLine (orderGaps p file members last) (file.text.after e.span.stop) k = true))) ∧
    ∀ g, p.grouping = some g → p.regroupEdit? r file = some e →
      (∀ fixed, Edit.applyAll file.text [e] = .ok fixed →
        ∀ x ∈ groupPlacements p r g file e,
          fixed = x.before ++ file.slice x.fragment ++ x.after) ∧
      (KeepsCode file (groupPlacements p r g file e) ↔
        ∀ s, (groupFragments p r g file).getLast? = some s → EndsInLineComment file s →
          startsLine (file.text.after e.span.stop) = true) := by
  refine ⟨?_, ?_⟩
  · intro members last final made
    refine ⟨?_, order_keeps_code_iff final made⟩
    intro fixed applied x member
    rw [placements_text member, ← (orderEdit?_replacement final made).2,
      applyAll_singleton applied, Edit.splice]
  · intro g grouped made
    refine ⟨?_, group_keeps_code_iff p r g file e⟩
    intro fixed applied x member
    rw [placements_text member, ← regroupEdit?_replacement grouped made,
      applyAll_singleton applied, Edit.splice]

end Edits

/-- Three imports, the first one with a comment behind it and the last one behind a gap. -/
def threeImports (gap : Char) : SourceFile :=
  .ofParts ("import 'b'; // x\nimport 'c';".toList ++ gap :: "import 'a';".toList)
    { nodes := #[⟨.importDeclaration [] ['b'] .value, some ⟨0, 11⟩⟩,
        ⟨.importDeclaration [] ['c'] .value, some ⟨17, 28⟩⟩,
        ⟨.importDeclaration [] ['a'] .value, some ⟨29, 40⟩⟩,
        ⟨.program [0, 1, 2], some ⟨0, 40⟩⟩]
      root := 3 }
    [⟨.keyword, ⟨0, 6⟩⟩, ⟨.string, ⟨7, 10⟩⟩, ⟨.punctuator, ⟨10, 11⟩⟩,
      ⟨.keyword, ⟨17, 23⟩⟩, ⟨.string, ⟨24, 27⟩⟩, ⟨.punctuator, ⟨27, 28⟩⟩,
      ⟨.keyword, ⟨29, 35⟩⟩, ⟨.string, ⟨36, 39⟩⟩, ⟨.punctuator, ⟨39, 40⟩⟩]
    [⟨.line, ⟨12, 16⟩⟩] []

def threeImportsPlan : Plan :=
  { imports := [⟨0, ⟨0, 11⟩, ['b'], .value, true⟩, ⟨1, ⟨17, 28⟩, ['c'], .value, true⟩,
      ⟨2, ⟨29, 40⟩, ['a'], .value, true⟩]
    statements := []
    runs := [[0, 1, 2]]
    grouping := none }

theorem three_lines_keep_code :
    planOf plainOrder (threeImports '\n') = .ok threeImportsPlan ∧
      KeepsCode (threeImports '\n') (orderPlacements threeImportsPlan plainOrder
        (threeImports '\n') [0, 1, 2] 2
        ⟨⟨0, 40⟩, "import 'a';\nimport 'b'; // x\nimport 'c';".toList⟩) := by
  have made : threeImportsPlan.orderEdit? plainOrder (threeImports '\n') [0, 1, 2] =
      some ⟨⟨0, 40⟩, "import 'a';\nimport 'b'; // x\nimport 'c';".toList⟩ := by cbv
  have fragments : orderFragments threeImportsPlan plainOrder (threeImports '\n') [0, 1, 2] 2 =
      [⟨29, 40⟩, ⟨0, 16⟩, ⟨17, 28⟩] := by cbv
  have gaps : orderGaps threeImportsPlan (threeImports '\n') [0, 1, 2] 2 = [['\n'], ['\n']] := by
    cbv
  have condition := ((import_edits_keep_code_iff threeImportsPlan plainOrder
    (threeImports '\n') _).1 [0, 1, 2] 2 rfl made).2
  rw [fragments, gaps] at condition
  refine ⟨by cbv, (condition ?_).mpr ?_⟩
  · simp only [List.forall_mem_cons, List.not_mem_nil, false_implies, implies_true, and_true]
    exact ⟨by cbv, by cbv, by cbv⟩
  · intro k s found _
    rcases k with _ | _ | _ | k
    · rfl
    · rfl
    · cbv
    · simp at found

/-- With two imports on one line the comment that moves in front of the second one takes it in. -/
theorem sorted_run_comments_code_out :
    planOf plainOrder (threeImports ' ') = .ok threeImportsPlan ∧
      ∃ e, threeImportsPlan.orderEdit? plainOrder (threeImports ' ') [0, 1, 2] = some e ∧
        Edit.applyAll (threeImports ' ').text [e] =
          .ok "import 'a';\nimport 'b'; // x import 'c';".toList ∧
        ¬ KeepsCode (threeImports ' ')
          (orderPlacements threeImportsPlan plainOrder (threeImports ' ') [0, 1, 2] 2 e) := by
  refine ⟨by cbv, ⟨⟨0, 40⟩, "import 'a';\nimport 'b'; // x import 'c';".toList⟩, by cbv, by cbv, ?_⟩
  exact of_decide_eq_false (by cbv)

end ScriptLint.ImportPaths
