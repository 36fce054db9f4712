import ScriptLint.Proofs.Syntax.Places

/-!
Lowering keeps nodes in their places.

The node that a construct leaves stands inside the construct. So the statements of a program, the
members of an import and the entries of an object pattern are in the order of the text.
-/
namespace ScriptLint

def Lowerer.LowersInside (l : Lowerer) (text : Text) : Prop :=
  ∀ n : Concrete, n.Fits text → Keeps text (l.lower n) (Stands text n.span)

namespace Lowerer

section Names

variable {l : Lowerer} {text : Text} {n : Concrete} (fit : n.Fits text)
include fit

theorem leaf_inside : Keeps text (leaf n) (Stands text n.span) := keeps_emit fit rfl

theorem identifier_inside : Keeps text (l.identifier n) (Stands text n.span) := keeps_emit fit rfl

theorem privateIdentifier_inside : Keeps text (l.privateIdentifier n) (Stands text n.span) :=
  keeps_emit fit rfl

theorem literal_inside : Keeps text (l.literal n) (Stands text n.span) := keeps_emit fit rfl

theorem exportName_inside : Keeps text (l.exportName n) (Stands text n.span) := by
  rw [exportName]
  split
  · exact literal_inside fit
  · exact identifier_inside fit

theorem identifierField_keeps (field : String) :
    Keeps text (l.identifierField n field) Anywhere := by
  rw [identifierField]
  split
  · rename_i found
    exact keeps_map_anywhere (identifier_inside (fit.field found))
  · exact keeps_return _

end Names

section Parts

variable {l : Lowerer} {text : Text} (lowers : l.LowersInside text)
include lowers

theorem lowerAll_keeps {ns : List Concrete} (fits : ∀ n ∈ ns, n.Fits text) :
    Keeps text (l.lowerAll ns) Anywhere :=
  keeps_mapM fun n member => keeps_anywhere (lowers n (fits n member))

variable {n : Concrete} (fit : n.Fits text)
include fit

theorem lowerOption_keeps (field : String) :
    Keeps text (l.lowerOption (n.field? field)) Anywhere := by
  cases found : n.field? field with
  | some child => exact keeps_map_anywhere (lowers child (fit.field found))
  | none => exact keeps_return _

theorem lowerField_keeps (field : String) : Keeps text (l.lowerField n field) Anywhere := by
  rw [lowerField]
  split
  · rename_i found
    exact keeps_anywhere (lowers _ (fit.field found))
  · exact keeps_anywhere (leaf_inside fit)

theorem lowerFirst_inside : Keeps text (l.lowerFirst n) (Stands text n.span) := by
  rw [lowerFirst]
  split
  · rename_i child _ parts
    have member : child ∈ n.children := n.parts_sublist.subset (by simp [parts])
    exact keeps_post (lowers child (fit.child member)) fun _ _ => stands_wider (fit.inside member)
  · exact leaf_inside fit

theorem generic_inside : Keeps text (l.generic n) (Stands text n.span) :=
  keeps_then (lowerAll_keeps lowers fit.part) fun _ => keeps_emit fit rfl

theorem key_keeps : Keeps text (l.key n) Anywhere := by
  rw [key]
  split
  · exact keeps_map_anywhere (identifier_inside fit)
  · exact keeps_map_anywhere (identifier_inside fit)
  · exact keeps_map_anywhere (identifier_inside fit)
  · exact keeps_map_anywhere (privateIdentifier_inside fit)
  · exact keeps_map_anywhere (literal_inside fit)
  · exact keeps_map_anywhere (literal_inside fit)
  · exact keeps_map_anywhere (lowerFirst_inside lowers fit)
  · exact keeps_map_anywhere (leaf_inside fit)

end Parts

section Declarations

variable {l : Lowerer} {text : Text} (lowers : l.LowersInside text) {n : Concrete}
  (fit : n.Fits text)
include lowers fit

theorem declarator_inside : Keeps text (l.declarator n) (Stands text n.span) :=
  keeps_then (lowerField_keeps lowers fit "name") fun _ =>
    keeps_then (lowerOption_keeps lowers fit "value") fun _ => keeps_emit fit rfl

theorem variableDeclaration_inside : Keeps text (l.variableDeclaration n) (Stands text n.span) :=
  keeps_then (keeps_mapM fun _ member => keeps_anywhere
    (declarator_inside lowers (fit.partOf "variable_declarator" _ member)))
    fun _ => keeps_emit fit rfl

/-- The declaration in the head of a loop need not be a range of the text. -/
theorem loopVariable_keeps {left : Concrete} (leftFit : left.Fits text) :
    Keeps text (l.loopVariable n left) Anywhere := by
  refine keeps_then (lowers left leftFit) fun id => ?_
  split
  · exact keeps_return _
  · refine keeps_then (lowerOption_keeps lowers fit "value") fun init => ?_
    refine keeps_then (keeps_push (fun _ => leftFit.span) rfl) fun declarator => ?_
    exact keeps_push (fun other => absurd rfl other) rfl

theorem loopStatement_inside : Keeps text (l.loopStatement n) (Stands text n.span) := by
  have rest : ∀ left : Option NodeId, Keeps text (do
      let right ← l.lowerOption (n.field? "right")
      let body ← l.lowerOption (n.field? "body")
      emit (.forStatement (left.toList ++ right.toList ++ body.toList)) n) (Stands text n.span) :=
    fun left => keeps_then (lowerOption_keeps lowers fit "right") fun _ =>
      keeps_then (lowerOption_keeps lowers fit "body") fun _ => keeps_emit fit rfl
  rw [loopStatement]
  split
  · rename_i found
    exact keeps_then (keeps_map_anywhere (loopVariable_keeps lowers fit (fit.field found))) rest
  · exact keeps_then (keeps_return _) rest

theorem parameter_keeps : Keeps text (l.parameter n) Anywhere := by
  rw [parameter]
  split
  -- Required and optional parameters are lowered alike.
  iterate 2
    · split
      · rename_i pattern value
        refine keeps_then (lowers _ (fit.field pattern)) fun left =>
          keeps_then (lowers _ (fit.field value)) fun right => ?_
        exact keeps_map_anywhere (keeps_emit fit rfl)
      · rename_i pattern _
        exact keeps_map_anywhere (lowers _ (fit.field pattern))
      · exact keeps_return _
  · exact keeps_return _
  · exact keeps_map_anywhere (lowers n fit)

theorem parameters_keeps : Keeps text (l.parameters n) Anywhere := by
  rw [parameters]
  split
  · rename_i found
    exact keeps_then (lowers _ (fit.field found)) fun _ => keeps_return _
  · rename_i found
    exact keeps_then
      (keeps_mapM fun _ member => parameter_keeps lowers ((fit.field found).part _ member))
      fun _ => keeps_return _
  · exact keeps_return _

theorem functionRest_inside (kind : FunctionKind) (id : Option NodeId) :
    Keeps text (l.functionRest n kind id) (Stands text n.span) :=
  keeps_then (parameters_keeps lowers fit) fun _ =>
    keeps_then (lowerOption_keeps lowers fit "body") fun _ => keeps_emit fit rfl

theorem function_inside (kind : FunctionKind) :
    Keeps text (l.function n kind) (Stands text n.span) :=
  keeps_then (identifierField_keeps fit "name") fun id => functionRest_inside lowers fit kind id

theorem method_inside : Keeps text (l.method n) (Stands text n.span) :=
  functionRest_inside lowers fit .expression none

theorem classMember_keeps : Keeps text (l.classMember n) Anywhere := by
  simp only [classMember]
  split
  · split
    · exact keeps_anywhere (generic_inside lowers fit)
    · rename_i found
      exact keeps_then (key_keeps lowers (fit.field found)) fun _ =>
        keeps_then (method_inside lowers fit) fun _ => keeps_anywhere (keeps_emit fit rfl)
  -- Both spellings of a field.
  iterate 2
    · split
      · exact keeps_anywhere (generic_inside lowers fit)
      · rename_i name found
        have named : name.Fits text := by
          cases own : n.field? "name" with
          | some child =>
            rw [own] at found
            cases found
            exact fit.field own
          | none =>
            rw [own] at found
            exact fit.field found
        exact keeps_then (key_keeps lowers named) fun _ =>
          keeps_then (lowerOption_keeps lowers fit "value") fun _ =>
            keeps_anywhere (keeps_emit fit rfl)
  · exact keeps_anywhere (leaf_inside fit)
  · exact keeps_anywhere (leaf_inside fit)
  · exact keeps_anywhere (lowers n fit)

omit lowers in
theorem heritage_fits : ∀ c ∈ heritage n, c.Fits text := by
  intro c member
  obtain ⟨part, inner, deeper⟩ := List.mem_flatMap.mp member
  obtain ⟨clause, listed, last⟩ := List.mem_flatMap.mp deeper
  exact ((fit.partOf _ part inner).partOf _ clause listed).part c last

theorem classDefinition_inside (kind : ClassKind) :
    Keeps text (l.classDefinition n kind) (Stands text n.span) := by
  refine keeps_then (identifierField_keeps fit "name") fun name =>
    keeps_then (lowerAll_keeps lowers (heritage_fits fit)) fun parents => ?_
  split
  · rename_i found
    exact keeps_then
      (keeps_mapM fun _ member => classMember_keeps lowers ((fit.field found).part _ member))
      fun _ => keeps_emit fit rfl
  · exact keeps_then (keeps_return _) fun _ => keeps_emit fit rfl

end Declarations

section Modules

variable {l : Lowerer} {text : Text}

theorem importMember_inside {n : Concrete} (fit : n.Fits text) :
    Keeps text (l.importMember n) (Stands text n.span) := by
  rw [importMember]
  split
  · rename_i name rename
    exact keeps_then (exportName_inside (fit.field name)) fun _ =>
      keeps_then (identifier_inside (fit.field rename)) fun _ => keeps_emit fit rfl
  · rename_i name _
    exact keeps_then (exportName_inside (fit.field name)) fun _ => keeps_emit fit rfl
  · exact keeps_then (leaf_inside fit) fun _ => keeps_emit fit rfl

theorem importPart_inside {n : Concrete} (fit : n.Fits text) :
    Keeps text (l.importPart n) (Stands text n.span) := by
  rw [importPart]
  split
  · exact keeps_then (identifier_inside fit) fun _ => keeps_emit fit rfl
  · rw [namespaceImport]
    split
    · rename_i name _ names
      have named := fit.partOf "identifier" name (by simp [names])
      exact keeps_then (identifier_inside named) fun _ => keeps_emit fit rfl
    · exact leaf_inside fit
  · exact importMember_inside fit

theorem importParts_inOrder {n : Concrete} (fit : n.Fits text) :
    Concrete.InOrder text n.span (importParts n) := by
  refine (fit.inOrder.sublist (n.partsOf_sublist _)).flatMap fun clause member => ?_
  have clauseFit := fit.partOf _ clause member
  refine (clauseFit.inOrder.sublist clause.parts_sublist).flatMap fun part listed => ?_
  have partFit := clauseFit.part part listed
  split
  · exact partFit.alone
  · split
    · exact .nil text part.span
    · exact partFit.alone
  · exact partFit.inOrder.sublist (part.partsOf_sublist _)
  · exact .nil text part.span

theorem importStatement_inside {n : Concrete} (fit : n.Fits text) :
    Keeps text (l.importStatement n) (Stands text n.span) := by
  rw [importStatement]
  split
  · exact leaf_inside fit
  · have parts := keeps_mapM_nodes (importParts_inOrder fit) fun c =>
      importPart_inside (l := l) (n := c)
    exact keeps_bind parts fun specifiers nodes placed entries =>
      emit_entries fit placed fun _ => entries

theorem exportMember_keeps {n : Concrete} (fit : n.Fits text) :
    Keeps text (l.exportMember n) Anywhere := by
  rw [exportMember]
  split
  case' h_1 name found => apply keeps_then (exportName_inside (fit.field found))
  case' h_2 => apply keeps_then (leaf_inside fit)
  -- However the origin's name was read, the exported name is read the same way after it.
  all_goals
    intro origin
    split
    · rename_i rename
      exact keeps_then (exportName_inside (fit.field rename)) fun _ =>
        keeps_anywhere (keeps_emit fit rfl)
    · exact keeps_then (keeps_return _) fun _ => keeps_anywhere (keeps_emit fit rfl)

theorem exportNamespace_keeps {n : Concrete} (fit : n.Fits text) :
    Keeps text (l.exportNamespace n) Anywhere := by
  rw [exportNamespace]
  split
  · rename_i name found
    obtain ⟨star, first, second⟩ := Option.bind_eq_some_iff.mp found
    have starFit := fit.partOf _ star (List.mem_of_mem_head? first)
    exact keeps_map_anywhere (exportName_inside (starFit.part name (List.mem_of_mem_head? second)))
  · exact keeps_return _

theorem exportStatement_inside (lowers : l.LowersInside text) {n : Concrete} (fit : n.Fits text) :
    Keeps text (l.exportStatement n) (Stands text n.span) := by
  simp only [exportStatement]
  split
  · rename_i declaration
    exact keeps_then (lowers _ (fit.field declaration)) fun _ => keeps_emit fit rfl
  · rename_i clause _ _ clauses
    have clauseFit := fit.partOf "export_clause" clause (by simp [clauses])
    exact keeps_then (keeps_mapM fun c member => exportMember_keeps (clauseFit.partOf _ c member))
      fun _ => keeps_emit fit rfl
  · exact keeps_then (exportNamespace_keeps fit) fun _ => keeps_emit fit rfl
  · exact generic_inside lowers fit

end Modules

section Objects

variable {l : Lowerer} {text : Text} (lowers : l.LowersInside text) {n : Concrete}
  (fit : n.Fits text)
include fit

theorem shorthand_inside : Keeps text (l.shorthand n) (StandsIfAny text n.span) :=
  keeps_then (identifier_inside fit) fun _ => keeps_some (keeps_emit fit rfl)

include lowers

theorem pair_inside : Keeps text (l.pair n) (StandsIfAny text n.span) := by
  rw [pair]
  split
  · exact keeps_none n.span
  · rename_i name
    exact keeps_then (key_keeps lowers (fit.field name)) fun _ =>
      keeps_then (lowerField_keeps lowers fit "value") fun _ => keeps_some (keeps_emit fit rfl)

theorem objectMember_keeps : Keeps text (l.objectMember n) Anywhere := by
  rw [objectMember]
  split
  · exact keeps_anywhere (pair_inside lowers fit)
  · exact keeps_anywhere (shorthand_inside fit)
  · split
    · exact keeps_return _
    · rename_i name
      exact keeps_then (key_keeps lowers (fit.field name)) fun _ =>
        keeps_then (method_inside lowers fit) fun _ => keeps_map_anywhere (keeps_emit fit rfl)
  · exact keeps_map_anywhere (lowers n fit)

theorem object_inside : Keeps text (l.object n) (Stands text n.span) :=
  keeps_then (keeps_mapM fun c member => objectMember_keeps lowers (fit.part c member))
    fun _ => keeps_emit fit rfl

theorem rest_inside : Keeps text (l.rest n) (Stands text n.span) :=
  keeps_then (lowerFirst_inside lowers fit) fun _ => keeps_emit fit rfl

theorem patternDefault_inside : Keeps text (l.patternDefault n) (StandsIfAny text n.span) := by
  rw [patternDefault]
  split
  · exact keeps_none n.span
  · rename_i name found
    have named := fit.field found
    refine keeps_then (lowerField_keeps lowers fit "right") fun right => ?_
    split
    · exact keeps_then (identifier_inside named) fun _ =>
        keeps_then (identifier_inside named) fun _ =>
          keeps_then (keeps_emit fit rfl) fun _ => keeps_some (keeps_emit fit rfl)
    · exact keeps_then (lowers name named) fun _ => keeps_some (keeps_emit fit rfl)

theorem patternMember_inside : Keeps text (l.patternMember n) (StandsIfAny text n.span) := by
  rw [patternMember]
  split
  · exact pair_inside lowers fit
  · exact shorthand_inside fit
  · exact patternDefault_inside lowers fit
  · exact keeps_some (rest_inside lowers fit)
  · exact keeps_some (lowers n fit)

theorem objectPattern_inside : Keeps text (l.objectPattern n) (Stands text n.span) := by
  have members := keeps_mapM_entries id (fit.inOrder.sublist n.parts_sublist)
    fun c => patternMember_inside (n := c) lowers
  exact keeps_bind members fun properties nodes placed entries =>
    emit_entries fit placed fun _ => entries

end Objects

section Types

variable {l : Lowerer} {text : Text} (lowers : l.LowersInside text) {n : Concrete}
  (fit : n.Fits text)
include fit

theorem typeParameters_keeps : Keeps text (l.typeParameters n) Anywhere := by
  rw [typeParameters]
  split
  · exact keeps_return _
  · rename_i list found
    refine keeps_then (keeps_mapM fun param member => ?_) fun _ => keeps_return _
    have paramFit := (fit.field found).partOf _ param member
    split
    · exact keeps_return _
    · rename_i name
      exact keeps_then (identifier_inside (paramFit.field name)) fun _ =>
        keeps_map_anywhere (keeps_emit paramFit rfl)

include lowers

theorem signature_keeps : Keeps text (l.signature n) Anywhere := by
  rw [signature]
  split
  · rename_i name
    exact keeps_then (key_keeps lowers (fit.field name)) fun _ =>
      keeps_anywhere (keeps_emit fit rfl)
  · rename_i name
    exact keeps_then (key_keeps lowers (fit.field name)) fun _ =>
      keeps_anywhere (keeps_emit fit rfl)
  · exact keeps_anywhere (leaf_inside fit)

theorem interfaceDeclaration_inside :
    Keeps text (l.interfaceDeclaration n) (Stands text n.span) := by
  rw [interfaceDeclaration]
  split
  · exact leaf_inside fit
  · rename_i name
    refine keeps_then (identifier_inside (fit.field name)) fun _ =>
      keeps_then (typeParameters_keeps fit) fun _ => ?_
    split
    · rename_i body
      exact keeps_then
        (keeps_mapM fun c member => signature_keeps lowers ((fit.field body).part c member))
        fun _ => keeps_emit fit rfl
    · exact keeps_then (keeps_return _) fun _ => keeps_emit fit rfl

theorem aliasedType_keeps : Keeps text (l.aliasedType n) Anywhere := by
  rw [aliasedType]
  split
  · exact keeps_then (keeps_mapM fun c member => signature_keeps lowers (fit.part c member))
      fun _ => keeps_anywhere (keeps_emit fit rfl)
  · exact keeps_anywhere (leaf_inside fit)

theorem typeAlias_inside : Keeps text (l.typeAlias n) (Stands text n.span) := by
  rw [typeAlias]
  split
  · exact leaf_inside fit
  · rename_i name
    refine keeps_then (identifier_inside (fit.field name)) fun _ =>
      keeps_then (typeParameters_keeps fit) fun _ => ?_
    split
    · rename_i value
      exact keeps_then (keeps_map_anywhere (aliasedType_keeps lowers (fit.field value)))
        fun _ => keeps_emit fit rfl
    · exact keeps_then (keeps_return _) fun _ => keeps_emit fit rfl

theorem enumMember_keeps : Keeps text (l.enumMember n) Anywhere := by
  rw [enumMember]
  split
  · exact keeps_return _
  · rename_i name
    exact keeps_then (key_keeps lowers (fit.field name)) fun _ =>
      keeps_then (lowerOption_keeps lowers fit "value") fun _ =>
        keeps_map_anywhere (keeps_emit fit rfl)
  · exact keeps_then (key_keeps lowers fit) fun _ => keeps_map_anywhere (keeps_emit fit rfl)

theorem enumDeclaration_inside : Keeps text (l.enumDeclaration n) (Stands text n.span) := by
  rw [enumDeclaration]
  split
  · exact leaf_inside fit
  · rename_i name
    refine keeps_then (identifier_inside (fit.field name)) fun _ => ?_
    split
    · rename_i body
      exact keeps_then
        (keeps_mapM fun c member => enumMember_keeps lowers ((fit.field body).part c member))
        fun _ => keeps_emit fit rfl
    · exact keeps_then (keeps_return _) fun _ => keeps_emit fit rfl

end Types

section Expressions

variable {l : Lowerer} {text : Text} (lowers : l.LowersInside text) {n : Concrete}
  (fit : n.Fits text)
include lowers fit

theorem assignment_inside : Keeps text (l.assignment n) (Stands text n.span) :=
  keeps_then (lowerField_keeps lowers fit "left") fun _ =>
    keeps_then (lowerField_keeps lowers fit "right") fun _ => keeps_emit fit rfl

theorem member_inside : Keeps text (l.member n) (Stands text n.span) := by
  refine keeps_then (lowerField_keeps lowers fit "object") fun object => ?_
  split
  · rename_i name
    split
    · exact keeps_then (privateIdentifier_inside (fit.field name)) fun _ => keeps_emit fit rfl
    · exact keeps_then (identifier_inside (fit.field name)) fun _ => keeps_emit fit rfl
  · exact keeps_then (leaf_inside fit) fun _ => keeps_emit fit rfl

theorem subscript_inside : Keeps text (l.subscript n) (Stands text n.span) :=
  keeps_then (lowerField_keeps lowers fit "object") fun _ =>
    keeps_then (lowerField_keeps lowers fit "index") fun _ => keeps_emit fit rfl

theorem binary_inside : Keeps text (l.binary n) (Stands text n.span) := by
  refine keeps_then (lowerField_keeps lowers fit "left") fun left =>
    keeps_then (lowerField_keeps lowers fit "right") fun right => ?_
  split
  · exact keeps_emit fit rfl
  · exact keeps_emit fit rfl
  · exact keeps_emit fit rfl
  · exact keeps_emit fit rfl

theorem unary_inside : Keeps text (l.unary n) (Stands text n.span) :=
  keeps_then (lowerField_keeps lowers fit "argument") fun _ => keeps_emit fit rfl

theorem ternary_inside : Keeps text (l.ternary n) (Stands text n.span) :=
  keeps_then (lowerField_keeps lowers fit "condition") fun _ =>
    keeps_then (lowerField_keeps lowers fit "consequence") fun _ =>
      keeps_then (lowerField_keeps lowers fit "alternative") fun _ => keeps_emit fit rfl

theorem catchClause_inside : Keeps text (l.catchClause n) (Stands text n.span) :=
  keeps_then (lowerOption_keeps lowers fit "parameter") fun _ =>
    keeps_then (lowerField_keeps lowers fit "body") fun _ => keeps_emit fit rfl

theorem labeled_inside : Keeps text (l.labeled n) (Stands text n.span) := by
  refine keeps_then (identifierField_keeps fit "label") fun label =>
    keeps_then (lowerField_keeps lowers fit "body") fun body => ?_
  cases label with
  | none => exact keeps_emit fit rfl
  | some label => exact keeps_emit fit rfl

theorem lowerNode_inside : Keeps text (l.lowerNode n) (Stands text n.span) := by
  rw [lowerNode]
  cases Construct.ofSymbol n.kind with
  | leaf => exact leaf_inside fit
  | identifier => exact identifier_inside fit
  | privateIdentifier => exact privateIdentifier_inside fit
  | literal => exact literal_inside fit
  | parenthesized => exact lowerFirst_inside lowers fit
  | importStatement => exact importStatement_inside fit
  | exportStatement => exact exportStatement_inside lowers fit
  | variableDeclaration => exact variableDeclaration_inside lowers fit
  | declarator => exact declarator_inside lowers fit
  | functionDeclaration => exact function_inside lowers fit .declaration
  | functionExpression => exact function_inside lowers fit .expression
  | arrowFunction => exact function_inside lowers fit .arrow
  | classDeclaration => exact classDefinition_inside lowers fit .declaration
  | classExpression => exact classDefinition_inside lowers fit .expression
  | object => exact object_inside lowers fit
  | objectPattern => exact objectPattern_inside lowers fit
  | arrayPattern => exact keeps_then (lowerAll_keeps lowers fit.part) fun _ => keeps_emit fit rfl
  | restPattern => exact rest_inside lowers fit
  | assignmentPattern =>
    exact keeps_then (lowerField_keeps lowers fit "left") fun _ =>
      keeps_then (lowerField_keeps lowers fit "right") fun _ => keeps_emit fit rfl
  | assignment => exact assignment_inside lowers fit
  | member => exact member_inside lowers fit
  | subscript => exact subscript_inside lowers fit
  | binary => exact binary_inside lowers fit
  | unary => exact unary_inside lowers fit
  | ternary => exact ternary_inside lowers fit
  | typeCast =>
    refine keeps_then (lowerAll_keeps lowers fun c member => ?_) fun _ => keeps_emit fit rfl
    exact fit.part c (List.mem_filter.mp member).1
  | catchClause => exact catchClause_inside lowers fit
  | block => exact keeps_then (lowerAll_keeps lowers fit.part) fun _ => keeps_emit fit rfl
  | forLoop => exact keeps_then (lowerAll_keeps lowers fit.part) fun _ => keeps_emit fit rfl
  | collectionLoop => exact loopStatement_inside lowers fit
  | labeled => exact labeled_inside lowers fit
  | breakStatement =>
    exact keeps_then (identifierField_keeps fit "label") fun _ => keeps_emit fit rfl
  | continueStatement =>
    exact keeps_then (identifierField_keeps fit "label") fun _ => keeps_emit fit rfl
  | interfaceDeclaration => exact interfaceDeclaration_inside lowers fit
  | typeAlias => exact typeAlias_inside lowers fit
  | enumDeclaration => exact enumDeclaration_inside lowers fit
  | moduleDeclaration =>
    exact keeps_then (lowerOption_keeps lowers fit "body") fun _ => keeps_emit fit rfl
  | markupElement =>
    refine keeps_then (lowerAll_keeps lowers fun c member => ?_) fun _ => keeps_emit fit rfl
    exact fit.child (n.partsBesides_sublist "name" |>.subset member)
  | generic => exact generic_inside lowers fit

end Expressions

end Lowerer

theorem lowerWithin_inside {text : Text} (source : Text) (levels : Nat) (n : Concrete)
    (fit : n.Fits text) :
    Keeps text (lowerWithin source levels n) (Stands text n.span) := by
  induction levels generalizing n with
  | zero => exact Lowerer.leaf_inside fit
  | succ levels ih =>
    have lowers : Lowerer.LowersInside ⟨source, lowerWithin source levels⟩ text := ih
    exact Lowerer.lowerNode_inside lowers fit

theorem toTree_placed {text : Text} {root : Concrete} (fit : root.Fits text) :
    Placed text (root.toTree text).nodes := by
  have statements := keeps_mapM_nodes (fit.inOrder.sublist root.parts_sublist)
    (lowerWithin_inside text root.height)
  have program : Keeps text (root.lowerProgram text) (Stands text root.span) :=
    keeps_bind statements fun body nodes placed entries =>
      emit_entries fit placed fun _ => entries
  exact (program #[] (placed_empty text)).1

end ScriptLint
