import ScriptLint.Lint.Rule
import ScriptLint.Text.Digits

/-!
Logical expressions should not be too tall nor have too many terms.

Logical operators, `!`, chosen comparison operators and, when included, conditional expressions make
up an expression tree; everything else is a term of it. Height and number of terms are measured at
the top of such a tree, and the parts measured there are not measured again.
-/
namespace ScriptLint

inductive ComparisonOperator where
  | equal
  | strictEqual
  | notEqual
  | strictNotEqual
  | less
  | lessEqual
  | greater
  | greaterEqual
  deriving DecidableEq, Repr

namespace ComparisonOperator

def sign : ComparisonOperator → String
  | equal => "=="
  | strictEqual => "==="
  | notEqual => "!="
  | strictNotEqual => "!=="
  | less => "<"
  | lessEqual => "<="
  | greater => ">"
  | greaterEqual => ">="

def all : List ComparisonOperator :=
  [.equal, .strictEqual, .notEqual, .strictNotEqual, .less, .lessEqual, .greater, .greaterEqual]

def ofSign? (s : String) : Option ComparisonOperator := all.find? (·.sign == s)

end ComparisonOperator

/-- A limit of 0 is no limit. -/
structure ComplexityOptions where
  maxHeight : Nat := 2
  maxTerms : Nat := 4
  binaryOperators : List ComparisonOperator := []
  includeTernary : Bool := true
  deriving DecidableEq, Repr

namespace Complexity

def operands? (o : ComplexityOptions) : NodeKind → Option (List NodeId)
  | .logicalExpression _ left right => some [left, right]
  | .binaryExpression operator left right =>
    if o.binaryOperators.any (·.sign == operator) then some [left, right] else none
  | .unaryExpression operator argument => if operator == "!" then some [argument] else none
  | .conditionalExpression test consequent alternate =>
    if o.includeTernary then some [test, consequent, alternate] else none
  | _ => none

/-- The height down to `levels` levels. A term has height 0, and a private name does not count. -/
def heightWithin (o : ComplexityOptions) (t : Tree) : Nat → NodeId → Int
  | 0, _ => 0
  | levels + 1, id =>
    if t.tag id = .privateIdentifier then -1
    else match operands? o (t.kind id) with
      | some children => (children.map (heightWithin o t levels)).foldl max (-1) + 1
      | none => 0

def height (o : ComplexityOptions) (t : Tree) (id : NodeId) : Int :=
  heightWithin o t (t.nodes.size + 1) id

def termsWithin (o : ComplexityOptions) (t : Tree) : Nat → NodeId → Nat
  | 0, _ => 1
  | levels + 1, id =>
    if t.tag id = .privateIdentifier then 0
    else match operands? o (t.kind id) with
      | some children => (children.map (termsWithin o t levels)).foldr (· + ·) 0
      | none => 1

def terms (o : ComplexityOptions) (t : Tree) (id : NodeId) : Nat :=
  termsWithin o t (t.nodes.size + 1) id

def measuredWithin (o : ComplexityOptions) (t : Tree) : Nat → NodeId → List NodeId
  | 0, _ => []
  | levels + 1, id =>
    if t.tag id = .privateIdentifier then []
    else match operands? o (t.kind id) with
      | some children => id :: children.flatMap (measuredWithin o t levels)
      | none => [id]

def measured (o : ComplexityOptions) (t : Tree) (id : NodeId) : List NodeId :=
  measuredWithin o t (t.nodes.size + 1) id

structure State where
  heights : List NodeId := []
  terms : List NodeId := []
  deriving DecidableEq, Repr

def tooTall (span : Span) (height limit : Nat) : Finding :=
  { lint := .logicalExpressionComplexity
    span
    messageId := "tooTall"
    data := [("height", Text.ofNat height), ("maxAllowed", Text.ofNat limit)]
    suggestion := none }

def tooManyTerms (span : Span) (terms limit : Nat) : Finding :=
  { lint := .logicalExpressionComplexity
    span
    messageId := "tooManyTerms"
    data := [("numTerms", Text.ofNat terms), ("maxAllowed", Text.ofNat limit)]
    suggestion := none }

def checkHeight (o : ComplexityOptions) (t : Tree) (seen : List NodeId) (id : NodeId)
    (span : Span) : List Finding × List NodeId :=
  if o.maxHeight = 0 || seen.contains id then ([], seen)
  else
    let h := height o t id
    (if (o.maxHeight : Int) < h then [tooTall span h.toNat o.maxHeight] else [],
      measured o t id ++ seen)

def checkTerms (o : ComplexityOptions) (t : Tree) (seen : List NodeId) (id : NodeId)
    (span : Span) : List Finding × List NodeId :=
  if o.maxTerms = 0 || seen.contains id then ([], seen)
  else
    let n := terms o t id
    (if o.maxTerms < n then [tooManyTerms span n o.maxTerms] else [], measured o t id ++ seen)

def visit (o : ComplexityOptions) (file : SourceFile) (s : State) (id : NodeId) : Step State :=
  if (operands? o (file.tree.kind id)).isNone then .quiet s
  else match file.tree.place id with
    | .error e => .fail e
    | .ok span =>
      let (tall, heights) := checkHeight o file.tree s.heights id span
      let (long, terms) := checkTerms o file.tree s.terms id span
      ⟨tall ++ long, .ok ⟨heights, terms⟩⟩

def selectors (o : ComplexityOptions) : List Selector :=
  [⟨.binaryExpression, none⟩, ⟨.logicalExpression, none⟩, ⟨.unaryExpression, none⟩] ++
    if o.includeTernary then [⟨.conditionalExpression, none⟩] else []

def rule (o : ComplexityOptions) : Rule :=
  { lint := .logicalExpressionComplexity
    State
    start := fun _ => {}
    selectors := selectors o
    visit := visit o }

def rule? (o : ComplexityOptions) : Except OptionError Rule :=
  match firstRepeated? [] o.binaryOperators with
  | some operator => .error (.repeatedOperator operator.sign)
  | none => .ok (rule o)

end Complexity

end ScriptLint
