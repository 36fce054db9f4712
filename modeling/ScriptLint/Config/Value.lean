import ScriptLint.Text.Basic

/-!
Values of a configuration.

They come from TOML or from JSON, which differ in what they take for nothing and in whether more
may be listed than a record has fields.
-/
namespace ScriptLint

inductive ConfigFormat where
  | toml
  | json
  deriving DecidableEq, Repr

inductive Value where
  | null
  | bool (b : Bool)
  | integer (n : Int)
  /-- A number that is not written as an integer. No setting takes one. -/
  | fraction
  /-- A date or a time. No setting takes one. -/
  | moment
  | text (t : Text)
  | list (items : List Value)
  | table (entries : List (Text × Value))
  deriving Repr, Inhabited

namespace Value

def bool? : Value → Option Bool
  | bool b => some b
  | _ => none

def count? : Value → Option Nat
  | integer n => if 0 ≤ n ∧ n < UInt32.size then some n.toNat else none
  | _ => none

def text? : Value → Option Text
  | text t => some t
  | _ => none

def isNothing : Value → ConfigFormat → Bool
  | list [], .toml => true
  | table [], .toml => true
  | null, .json => true
  | _, _ => false

def keyword? {α : Type _} (format : ConfigFormat) (read : String → Option α) : Value → Option α
  | text t => read (String.ofList t)
  | table [(name, v)] => if v.isNothing format then read (String.ofList name) else none
  | _ => none

def list? {α : Type _} (read : Value → Option α) : Value → Option (List α)
  | list items => items.mapM read
  | _ => none

def optional? {α : Type _} (read : Value → Option α) : Value → Option (Option α)
  | null => some none
  | v => (read v).map some

/-- Fill the fields of a record one after another. A field must be known to `put`. The values may
also be listed without names, in the order of the fields; in TOML what follows them is ignored. -/
def record? {α : Type _} (format : ConfigFormat) (fields : List String)
    (put : α → String → Value → Option α) (start : α) : Value → Option α
  | table entries => entries.foldlM (fun a (name, v) => put a (String.ofList name) v) start
  | list items =>
    if items.length ≤ fields.length || format = .toml then
      (fields.zip items).foldlM (fun a (name, v) => put a name v) start
    else none
  | _ => none

end Value

end ScriptLint
