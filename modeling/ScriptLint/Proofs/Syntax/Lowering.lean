import ScriptLint.Proofs.Syntax.Forest
import ScriptLint.Syntax.Lowering.Program

/-!
Lowering builds one tree.

Every construct takes exactly the roots that its parts have left and leaves one root, or none where
it is left out. Nodes that stand for two things at once, and nodes without a counterpart in the
concrete tree, count like all others.
-/
namespace ScriptLint

def Lowerer.Lowers (l : Lowerer) : Prop := ∀ n, Turns [] (l.lower n) fun id => [id]

namespace Lowerer

theorem leaf_turns (n : Concrete) : Turns [] (leaf n) fun id => [id] := turns_emit_of_eq rfl

theorem identifier_turns (l : Lowerer) (n : Concrete) :
    Turns [] (l.identifier n) fun id => [id] := turns_emit_of_eq rfl

theorem privateIdentifier_turns (l : Lowerer) (n : Concrete) :
    Turns [] (l.privateIdentifier n) fun id => [id] := turns_emit_of_eq rfl

theorem literal_turns (l : Lowerer) (n : Concrete) :
    Turns [] (l.literal n) fun id => [id] := turns_emit_of_eq rfl

theorem exportName_turns (l : Lowerer) (n : Concrete) :
    Turns [] (l.exportName n) fun id => [id] := by
  rw [exportName]
  split
  · exact literal_turns l n
  · exact identifier_turns l n

theorem identifierField_turns (l : Lowerer) (n : Concrete) (field : String) :
    Turns [] (l.identifierField n field) Option.toList := by
  rw [identifierField]
  split
  · exact turns_map (identifier_turns l _)
  · exact turns_pure (.refl _)

section Parts

variable {l : Lowerer} (lowers : l.Lowers)
include lowers

theorem lowerAll_turns (ns : List Concrete) : Turns [] (l.lowerAll ns) fun ids => ids :=
  turns_mapM_nodes lowers ns

theorem lowerOption_turns (n : Option Concrete) : Turns [] (l.lowerOption n) Option.toList := by
  cases n with
  | none => exact turns_pure (.refl _)
  | some n => exact turns_map (lowers n)

theorem lowerField_turns (n : Concrete) (field : String) :
    Turns [] (l.lowerField n field) fun id => [id] := by
  rw [lowerField]
  split
  · exact lowers _
  · exact leaf_turns n

theorem lowerFirst_turns (n : Concrete) : Turns [] (l.lowerFirst n) fun id => [id] := by
  rw [lowerFirst]
  split
  · exact lowers _
  · exact leaf_turns n

theorem generic_turns (n : Concrete) : Turns [] (l.generic n) fun id => [id] :=
  turns_then (lowerAll_turns lowers n.parts) fun _ => turns_emit_of_eq rfl

theorem key_turns (n : Concrete) : Turns [] (l.key n) fun key => [key.1] := by
  rw [key]
  split
  · exact turns_map (identifier_turns l n)
  · exact turns_map (identifier_turns l n)
  · exact turns_map (identifier_turns l n)
  · exact turns_map (privateIdentifier_turns l n)
  · exact turns_map (literal_turns l n)
  · exact turns_map (literal_turns l n)
  · exact turns_map (lowerFirst_turns lowers n)
  · exact turns_map (leaf_turns n)

end Parts

section Declarations

variable {l : Lowerer} (lowers : l.Lowers)
include lowers

theorem declarator_turns (n : Concrete) : Turns [] (l.declarator n) fun id => [id] :=
  turns_then (lowerField_turns lowers n "name") fun _ =>
    turns_then (lowerOption_turns lowers (n.field? "value")) fun _ => turns_emit_of_eq rfl

theorem variableDeclaration_turns (n : Concrete) :
    Turns [] (l.variableDeclaration n) fun id => [id] :=
  turns_then (turns_mapM_nodes (declarator_turns lowers) _) fun _ => turns_emit_of_eq rfl

/-- The declaration in the head of a loop has no counterpart in the concrete tree. -/
theorem loopVariable_turns (n left : Concrete) : Turns [] (l.loopVariable n left) fun id => [id] := by
  refine turns_then (lowers left) fun id => ?_
  split
  · exact turns_pure (.refl _)
  · refine turns_then (lowerOption_turns lowers _) fun init => ?_
    refine turns_bind (turns_push_of_eq rfl) fun declarator => ?_
    exact turns_push_of_eq rfl

theorem loopStatement_turns (n : Concrete) : Turns [] (l.loopStatement n) fun id => [id] := by
  rw [loopStatement]
  split
  · exact turns_then (turns_map (loopVariable_turns lowers n _)) fun _ =>
      turns_then (lowerOption_turns lowers _) fun _ =>
        turns_then (lowerOption_turns lowers _) fun _ => turns_emit_of_eq rfl
  · exact turns_then (turns_pure (.refl _)) fun _ =>
      turns_then (lowerOption_turns lowers _) fun _ =>
        turns_then (lowerOption_turns lowers _) fun _ => turns_emit_of_eq rfl

theorem parameter_turns (n : Concrete) : Turns [] (l.parameter n) Option.toList := by
  rw [parameter]
  split
  -- Required and optional parameters are lowered alike.
  iterate 2
    · split
      · refine turns_then (lowers _) fun left => turns_then (lowers _) fun right => ?_
        exact turns_map (turns_emit_of_eq rfl)
      · exact turns_map (lowers _)
      · exact turns_pure (.refl _)
  · exact turns_pure (.refl _)
  · exact turns_map (lowers n)

theorem parameters_turns (n : Concrete) : Turns [] (l.parameters n) fun ids => ids := by
  rw [parameters]
  split
  · exact turns_then (lowers _) fun id => turns_pure (.refl _)
  · exact turns_then (turns_mapM_options (parameter_turns lowers) _) fun ids =>
      turns_pure (.refl _)
  · exact turns_pure (.refl _)

theorem functionRest_turns (n : Concrete) (kind : FunctionKind) (name : Option NodeId) :
    Turns name.toList (l.functionRest n kind name) fun id => [id] :=
  turns_then (parameters_turns lowers n) fun _ =>
    turns_then (lowerOption_turns lowers _) fun _ => turns_emit_of_eq rfl

theorem function_turns (n : Concrete) (kind : FunctionKind) :
    Turns [] (l.function n kind) fun id => [id] :=
  turns_bind (identifierField_turns l n "name") fun name => functionRest_turns lowers n kind name

theorem method_turns (n : Concrete) : Turns [] (l.method n) fun id => [id] :=
  functionRest_turns lowers n .expression none

theorem classMember_turns (n : Concrete) : Turns [] (l.classMember n) fun id => [id] := by
  simp only [classMember]
  split
  · split
    · exact generic_turns lowers n
    · exact turns_then (key_turns lowers _) fun key =>
        turns_then (method_turns lowers n) fun value => turns_emit_of_eq rfl
  -- Both spellings of a field.
  iterate 2
    · split
      · exact generic_turns lowers n
      · exact turns_then (key_turns lowers _) fun key =>
          turns_then (lowerOption_turns lowers _) fun value => turns_emit_of_eq rfl
  · exact leaf_turns n
  · exact leaf_turns n
  · exact lowers n

theorem classDefinition_turns (n : Concrete) (kind : ClassKind) :
    Turns [] (l.classDefinition n kind) fun id => [id] := by
  refine turns_then (identifierField_turns l n "name") fun name =>
    turns_then (lowerAll_turns lowers (heritage n)) fun parents => ?_
  split
  · exact turns_then (turns_mapM_nodes (classMember_turns lowers) _) fun _ => turns_emit_of_eq rfl
  · exact turns_then (turns_pure (.refl _)) fun _ => turns_emit_of_eq rfl

end Declarations

section Modules

theorem importMember_turns (l : Lowerer) (n : Concrete) :
    Turns [] (l.importMember n) fun id => [id] := by
  rw [importMember]
  split
  · refine turns_then (exportName_turns l _) fun imported =>
      turns_then (identifier_turns l _) fun binding => turns_push_all fun distinct => ?_
    have other : ¬ binding = imported := by
      rintro rfl
      simp at distinct
    simp [NodeKind.children, other]
  · exact turns_then (exportName_turns l _) fun imported =>
      turns_emit_of_eq (by simp [NodeKind.children])
  · exact turns_then (leaf_turns n) fun imported =>
      turns_emit_of_eq (by simp [NodeKind.children])

theorem importPart_turns (l : Lowerer) (n : Concrete) :
    Turns [] (l.importPart n) fun id => [id] := by
  rw [importPart]
  split
  · exact turns_then (identifier_turns l n) fun binding => turns_emit_of_eq rfl
  · rw [namespaceImport]
    split
    · exact turns_then (identifier_turns l _) fun binding => turns_emit_of_eq rfl
    · exact leaf_turns n
  · exact importMember_turns l n

theorem importStatement_turns (l : Lowerer) (n : Concrete) :
    Turns [] (l.importStatement n) fun id => [id] := by
  rw [importStatement]
  split
  · exact leaf_turns n
  · exact turns_then (turns_mapM_nodes (importPart_turns l) _) fun specifiers =>
      turns_emit_of_eq rfl

theorem exportMember_turns (l : Lowerer) (n : Concrete) :
    Turns [] (l.exportMember n) fun id => [id] := by
  rw [exportMember]
  split
  case' h_1 => refine turns_bind (exportName_turns l _) fun origin => ?_
  case' h_2 => refine turns_bind (leaf_turns n) fun origin => ?_
  all_goals
    split
    · refine turns_then (exportName_turns l _) fun exported => turns_push_all fun distinct => ?_
      have other : ¬ exported = origin := by
        rintro rfl
        simp at distinct
      simp [NodeKind.children, other]
    · exact turns_push_of_eq (by simp [NodeKind.children])

theorem exportStatement_turns {l : Lowerer} (lowers : l.Lowers) (n : Concrete) :
    Turns [] (l.exportStatement n) fun id => [id] := by
  have exported : Turns [] (l.exportNamespace n) Option.toList := by
    rw [exportNamespace]
    split
    · exact turns_map (exportName_turns l _)
    · exact turns_pure (.refl _)
  simp only [exportStatement]
  split
  · exact turns_then (lowers _) fun declaration => turns_emit_of_eq rfl
  · exact turns_then (turns_mapM_nodes (exportMember_turns l) _) fun specifiers =>
      turns_emit_of_eq rfl
  · exact turns_then exported fun name => turns_emit_of_eq rfl
  · exact generic_turns lowers n

end Modules

section Objects

theorem property_turns (n : Concrete) {key value : NodeId} {short computed : Bool} :
    Turns [key, value] (emit (.property key value short computed) n) fun id => [id] := by
  refine turns_push_all fun distinct => ?_
  have other : ¬ value = key := by
    rintro rfl
    simp at distinct
  simp [NodeKind.children, other]

theorem shorthand_turns (l : Lowerer) (n : Concrete) : Turns [] (l.shorthand n) Option.toList :=
  turns_then (identifier_turns l n) fun _ =>
    turns_map (turns_emit_of_eq (by simp [NodeKind.children]))

variable {l : Lowerer} (lowers : l.Lowers)
include lowers

theorem pair_turns (n : Concrete) : Turns [] (l.pair n) Option.toList := by
  rw [pair]
  split
  · exact turns_pure (.refl _)
  · exact turns_then (key_turns lowers _) fun key =>
      turns_then (lowerField_turns lowers n "value") fun value => turns_map (property_turns n)

theorem objectMember_turns (n : Concrete) : Turns [] (l.objectMember n) Option.toList := by
  rw [objectMember]
  split
  · exact pair_turns lowers n
  · exact shorthand_turns l n
  · split
    · exact turns_pure (.refl _)
    · exact turns_then (key_turns lowers _) fun key =>
        turns_then (method_turns lowers n) fun value => turns_map (property_turns n)
  · exact turns_map (lowers n)

theorem object_turns (n : Concrete) : Turns [] (l.object n) fun id => [id] :=
  turns_then (turns_mapM_options (objectMember_turns lowers) _) fun _ => turns_emit_of_eq rfl

theorem rest_turns (n : Concrete) : Turns [] (l.rest n) fun id => [id] :=
  turns_then (lowerFirst_turns lowers n) fun _ => turns_emit_of_eq rfl

theorem patternDefault_turns (n : Concrete) : Turns [] (l.patternDefault n) Option.toList := by
  rw [patternDefault]
  split
  · exact turns_pure (.refl _)
  · rename_i name _
    refine turns_then (lowerField_turns lowers n "right") fun right => ?_
    split
    · refine turns_then (identifier_turns l name) fun key =>
        turns_then (identifier_turns l name) fun binding => ?_
      have value : Turns [right, key, binding] (emit (.assignmentPattern binding right) n)
          fun id => [key] ++ [id] := by
        refine turns_push fun _ => ?_
        exact ((List.Perm.swap binding key []).cons right).trans (List.Perm.swap binding right [key])
      exact turns_bind value fun id => turns_map (property_turns n)
    · refine turns_then (lowers name) fun left => turns_map (turns_push_all fun _ => ?_)
      exact List.Perm.swap left right []

theorem patternMember_turns (n : Concrete) : Turns [] (l.patternMember n) Option.toList := by
  rw [patternMember]
  split
  · exact pair_turns lowers n
  · exact shorthand_turns l n
  · exact patternDefault_turns lowers n
  · exact turns_map (rest_turns lowers n)
  · exact turns_map (lowers n)

theorem objectPattern_turns (n : Concrete) : Turns [] (l.objectPattern n) fun id => [id] :=
  turns_then (turns_mapM_options (patternMember_turns lowers) _) fun _ => turns_emit_of_eq rfl

end Objects

section Types

theorem typeParameters_turns (l : Lowerer) (n : Concrete) :
    Turns [] (l.typeParameters n) fun ids => ids := by
  rw [typeParameters]
  split
  · exact turns_pure (.refl _)
  · refine turns_then (turns_mapM_options ?_ _) fun ids => turns_pure (.refl _)
    intro param
    split
    · exact turns_pure (.refl _)
    · exact turns_then (identifier_turns l _) fun name => turns_map (turns_emit_of_eq rfl)

variable {l : Lowerer} (lowers : l.Lowers)
include lowers

theorem signature_turns (n : Concrete) : Turns [] (l.signature n) fun id => [id] := by
  rw [signature]
  split
  · exact turns_then (key_turns lowers _) fun key => turns_emit_of_eq rfl
  · exact turns_then (key_turns lowers _) fun key => turns_emit_of_eq rfl
  · exact leaf_turns n

theorem interfaceDeclaration_turns (n : Concrete) :
    Turns [] (l.interfaceDeclaration n) fun id => [id] := by
  rw [interfaceDeclaration]
  split
  · exact leaf_turns n
  · refine turns_then (identifier_turns l _) fun name =>
      turns_then (typeParameters_turns l n) fun params => ?_
    split
    · exact turns_then (turns_mapM_nodes (signature_turns lowers) _) fun _ => turns_emit_of_eq rfl
    · exact turns_then (turns_pure (.refl _)) fun _ => turns_emit_of_eq rfl

theorem aliasedType_turns (n : Concrete) : Turns [] (l.aliasedType n) fun id => [id] := by
  rw [aliasedType]
  split
  · exact turns_then (turns_mapM_nodes (signature_turns lowers) _) fun _ => turns_emit_of_eq rfl
  · exact leaf_turns n

theorem typeAlias_turns (n : Concrete) : Turns [] (l.typeAlias n) fun id => [id] := by
  rw [typeAlias]
  split
  · exact leaf_turns n
  · refine turns_then (identifier_turns l _) fun name =>
      turns_then (typeParameters_turns l n) fun params => ?_
    split
    · exact turns_then (turns_map (aliasedType_turns lowers _)) fun _ => turns_emit_of_eq rfl
    · exact turns_then (turns_pure (.refl _)) fun _ => turns_emit_of_eq rfl

theorem enumMember_turns (n : Concrete) : Turns [] (l.enumMember n) Option.toList := by
  rw [enumMember]
  split
  · exact turns_pure (.refl _)
  · exact turns_then (key_turns lowers _) fun key =>
      turns_then (lowerOption_turns lowers _) fun init => turns_map (turns_emit_of_eq rfl)
  · exact turns_then (key_turns lowers n) fun key => turns_map (turns_emit_of_eq rfl)

theorem enumDeclaration_turns (n : Concrete) : Turns [] (l.enumDeclaration n) fun id => [id] := by
  rw [enumDeclaration]
  split
  · exact leaf_turns n
  · refine turns_then (identifier_turns l _) fun name => ?_
    split
    · exact turns_then (turns_mapM_options (enumMember_turns lowers) _) fun _ =>
        turns_emit_of_eq rfl
    · exact turns_then (turns_pure (.refl _)) fun _ => turns_emit_of_eq rfl

end Types

section Expressions

variable {l : Lowerer} (lowers : l.Lowers)
include lowers

theorem assignment_turns (n : Concrete) : Turns [] (l.assignment n) fun id => [id] :=
  turns_then (lowerField_turns lowers n "left") fun _ =>
    turns_then (lowerField_turns lowers n "right") fun _ => turns_emit_of_eq rfl

theorem member_turns (n : Concrete) : Turns [] (l.member n) fun id => [id] := by
  refine turns_then (lowerField_turns lowers n "object") fun object => ?_
  split
  · split
    · exact turns_then (privateIdentifier_turns l _) fun _ => turns_emit_of_eq rfl
    · exact turns_then (identifier_turns l _) fun _ => turns_emit_of_eq rfl
  · exact turns_then (leaf_turns n) fun _ => turns_emit_of_eq rfl

theorem subscript_turns (n : Concrete) : Turns [] (l.subscript n) fun id => [id] :=
  turns_then (lowerField_turns lowers n "object") fun _ =>
    turns_then (lowerField_turns lowers n "index") fun _ => turns_emit_of_eq rfl

theorem binary_turns (n : Concrete) : Turns [] (l.binary n) fun id => [id] := by
  refine turns_then (lowerField_turns lowers n "left") fun left =>
    turns_then (lowerField_turns lowers n "right") fun right => ?_
  split
  · exact turns_emit_of_eq rfl
  · exact turns_emit_of_eq rfl
  · exact turns_emit_of_eq rfl
  · exact turns_emit_of_eq rfl

theorem unary_turns (n : Concrete) : Turns [] (l.unary n) fun id => [id] :=
  turns_then (lowerField_turns lowers n "argument") fun _ => turns_emit_of_eq rfl

theorem ternary_turns (n : Concrete) : Turns [] (l.ternary n) fun id => [id] :=
  turns_then (lowerField_turns lowers n "condition") fun _ =>
    turns_then (lowerField_turns lowers n "consequence") fun _ =>
      turns_then (lowerField_turns lowers n "alternative") fun _ => turns_emit_of_eq rfl

theorem catchClause_turns (n : Concrete) : Turns [] (l.catchClause n) fun id => [id] :=
  turns_then (lowerOption_turns lowers _) fun _ =>
    turns_then (lowerField_turns lowers n "body") fun _ => turns_emit_of_eq rfl

theorem labeled_turns (n : Concrete) : Turns [] (l.labeled n) fun id => [id] := by
  refine turns_then (identifierField_turns l n "label") fun label =>
    turns_then (lowerField_turns lowers n "body") fun body => ?_
  cases label with
  | none => exact turns_emit_of_eq rfl
  | some label => exact turns_emit_of_eq rfl

theorem lowerNode_turns (n : Concrete) : Turns [] (l.lowerNode n) fun id => [id] := by
  rw [lowerNode]
  cases Construct.ofSymbol n.kind with
  | leaf => exact leaf_turns n
  | identifier => exact identifier_turns l n
  | privateIdentifier => exact privateIdentifier_turns l n
  | literal => exact literal_turns l n
  | parenthesized => exact lowerFirst_turns lowers n
  | importStatement => exact importStatement_turns l n
  | exportStatement => exact exportStatement_turns lowers n
  | variableDeclaration => exact variableDeclaration_turns lowers n
  | declarator => exact declarator_turns lowers n
  | functionDeclaration => exact function_turns lowers n .declaration
  | functionExpression => exact function_turns lowers n .expression
  | arrowFunction => exact function_turns lowers n .arrow
  | classDeclaration => exact classDefinition_turns lowers n .declaration
  | classExpression => exact classDefinition_turns lowers n .expression
  | object => exact object_turns lowers n
  | objectPattern => exact objectPattern_turns lowers n
  | arrayPattern => exact turns_then (lowerAll_turns lowers _) fun _ => turns_emit_of_eq rfl
  | restPattern => exact rest_turns lowers n
  | assignmentPattern =>
    exact turns_then (lowerField_turns lowers n "left") fun _ =>
      turns_then (lowerField_turns lowers n "right") fun _ => turns_emit_of_eq rfl
  | assignment => exact assignment_turns lowers n
  | member => exact member_turns lowers n
  | subscript => exact subscript_turns lowers n
  | binary => exact binary_turns lowers n
  | unary => exact unary_turns lowers n
  | ternary => exact ternary_turns lowers n
  | typeCast => exact turns_then (lowerAll_turns lowers _) fun _ => turns_emit_of_eq rfl
  | catchClause => exact catchClause_turns lowers n
  | block => exact turns_then (lowerAll_turns lowers _) fun _ => turns_emit_of_eq rfl
  | forLoop => exact turns_then (lowerAll_turns lowers _) fun _ => turns_emit_of_eq rfl
  | collectionLoop => exact loopStatement_turns lowers n
  | labeled => exact labeled_turns lowers n
  | breakStatement =>
    exact turns_then (identifierField_turns l n "label") fun _ => turns_emit_of_eq rfl
  | continueStatement =>
    exact turns_then (identifierField_turns l n "label") fun _ => turns_emit_of_eq rfl
  | interfaceDeclaration => exact interfaceDeclaration_turns lowers n
  | typeAlias => exact typeAlias_turns lowers n
  | enumDeclaration => exact enumDeclaration_turns lowers n
  | moduleDeclaration =>
    exact turns_then (lowerOption_turns lowers _) fun _ => turns_emit_of_eq rfl
  | markupElement => exact turns_then (lowerAll_turns lowers _) fun _ => turns_emit_of_eq rfl
  | generic => exact generic_turns lowers n

end Expressions

end Lowerer

theorem lowerWithin_turns (source : Text) (levels : Nat) (n : Concrete) :
    Turns [] (lowerWithin source levels n) fun id => [id] := by
  induction levels generalizing n with
  | zero => exact Lowerer.leaf_turns n
  | succ levels ih =>
    have lowers : Lowerer.Lowers ⟨source, lowerWithin source levels⟩ := ih
    exact Lowerer.lowerNode_turns lowers n

theorem lowerProgram_turns (source : Text) (root : Concrete) :
    Turns [] (root.lowerProgram source) fun id => [id] :=
  turns_then (turns_mapM_nodes (lowerWithin_turns source root.height) _) fun _ =>
    turns_emit_of_eq rfl

theorem toTree_forest (source : Text) (root : Concrete) :
    Forest (root.toTree source).nodes [(root.toTree source).root] :=
  lowerProgram_turns source root #[] [] forest_empty

end ScriptLint
