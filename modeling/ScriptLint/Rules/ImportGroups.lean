import ScriptLint.Collation
import ScriptLint.Lint.Error
import ScriptLint.Pattern.Parse

/-!
The order of imports and the groups that they are divided into.

A group takes the imports whose path its pattern accepts. Two names are reserved: one for imports
that are made only for their side effects, and one for the imports that no pattern accepts.
-/
namespace ScriptLint

structure ImportPathsOptions where
  collation : Collation := {}
  /-- Blank lines divide the imports into runs that are sorted by themselves. -/
  allowSeparateGroups : Bool := true
  sideEffectsFirst : Bool := false
  /-- Whether a type import goes before or after a value import of the same path. -/
  typeImportsFirst : Option Bool := none
  groups : List Text := []
  deriving DecidableEq, Repr

structure ImportEntry where
  node : NodeId
  span : Span
  path : Text
  kind : ImportKind
  /-- Whether the import binds no name. -/
  sideEffect : Bool
  deriving DecidableEq, Repr

inductive ImportGroup where
  | sideEffects
  | theRest
  | pattern (source : Text) (accepts : Text → Bool)

namespace ImportGroup

def sideEffectsLabel : Text := "SIDE_EFFECTS".toList

def theRestLabel : Text := "THE_REST".toList

def label : ImportGroup → Text
  | sideEffects => sideEffectsLabel
  | theRest => theRestLabel
  | pattern source _ => source

def takes : ImportGroup → Text → Bool
  | pattern _ accepts, path => accepts path
  | _, _ => false

def isSideEffects : ImportGroup → Bool
  | sideEffects => true
  | _ => false

def isTheRest : ImportGroup → Bool
  | theRest => true
  | _ => false

def ofLabel (label : Text) : Except OptionError ImportGroup :=
  if label = sideEffectsLabel then .ok .sideEffects
  else if label = theRestLabel then .ok .theRest
  else match Pattern.parse? label with
    | some p => .ok (.pattern label p.accepts)
    | none => .error (.badPattern label)

end ImportGroup

structure ImportOrder where
  collation : Collation
  allowSeparateGroups : Bool
  sideEffectsFirst : Bool
  typeImportsFirst : Option Bool
  /-- The groups without repetitions, first of all the one for side effects. -/
  groups : List ImportGroup
  usesGroups : Bool

namespace ImportOrder

/-- Groups are used when there is more than one, with the one for the rest among them, and blank
lines may divide the imports. -/
def ofOptions (o : ImportPathsOptions) : Except OptionError ImportOrder :=
  let labels := (ImportGroup.sideEffectsLabel :: o.groups).eraseDups
  match labels.mapM ImportGroup.ofLabel with
  | .error cause => .error cause
  | .ok groups => .ok
    { collation := o.collation
      allowSeparateGroups := o.allowSeparateGroups
      sideEffectsFirst := o.sideEffectsFirst
      typeImportsFirst := o.typeImportsFirst
      groups
      usesGroups :=
        1 < o.groups.length && o.groups.contains ImportGroup.theRestLabel && o.allowSeparateGroups }

def compareKinds (r : ImportOrder) (a b : ImportKind) : Ordering :=
  if a = b then .eq
  else match r.typeImportsFirst with
    | none => .eq
    | some typeFirst => if (a == .type) == typeFirst then .lt else .gt

protected def compare (r : ImportOrder) (a b : ImportEntry) : Ordering :=
  if r.sideEffectsFirst && a.sideEffect != b.sideEffect then
    if a.sideEffect then .lt else .gt
  else (r.collation.compare a.path b.path).then (r.compareKinds a.kind b.kind)

def isAfter (r : ImportOrder) (a b : ImportEntry) : Bool := r.compare a b == .gt

def goesFirst (r : ImportOrder) (i : ImportEntry) : Bool := r.sideEffectsFirst && i.sideEffect

def anyPatternTakes (r : ImportOrder) (path : Text) : Bool := r.groups.any (·.takes path)

def isNeeded (r : ImportOrder) (imports : List ImportEntry) : ImportGroup → Bool
  | .theRest => imports.any fun i => !r.anyPatternTakes i.path && !r.goesFirst i
  | .sideEffects => imports.any r.goesFirst
  | .pattern _ accepts => imports.any fun i => accepts i.path

def neededGroups (r : ImportOrder) (imports : List ImportEntry) : List ImportGroup :=
  r.groups.filter (r.isNeeded imports)

def groupOf? (r : ImportOrder) (needed : List ImportGroup) (i : ImportEntry) : Option Nat :=
  if r.goesFirst i then needed.findIdx? (·.isSideEffects)
  else match needed.findIdx? (·.takes i.path) with
    | some n => some n
    | none => needed.findIdx? (·.isTheRest)

end ImportOrder

end ScriptLint
