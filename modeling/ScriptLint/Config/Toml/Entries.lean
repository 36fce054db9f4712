import ScriptLint.Config.Value

/-!
The entries of a TOML document.

What a line says is entered into a tree that remembers how each table came about, since that
decides whether the table may be named again.
-/
namespace ScriptLint.Toml

/-- How a table came about: by its own header, by the header of a table inside it, or by a key with
dots. -/
inductive Origin where
  | header
  | inner
  | dotted
  deriving DecidableEq

/-- What stands under a key. Of the tables that are listed under one header the last one is still
open, and those before it are finished. -/
inductive Entry where
  | value (v : Value)
  | table (origin : Origin) (entries : List (Text × Entry))
  | tables (finished : List Value) (entries : List (Text × Entry))

abbrev Entries := List (Text × Entry)

mutual
def Entry.toValue : Entry → Value
  | .value v => v
  | .table _ entries => .table (entriesToValues entries)
  | .tables finished entries => .list (finished ++ [.table (entriesToValues entries)])

def entriesToValues : Entries → List (Text × Value)
  | [] => []
  | (key, e) :: entries => (key, e.toValue) :: entriesToValues entries
end

def replace (key : Text) (e : Entry) (entries : Entries) : Entries :=
  entries.map fun entry => if entry.1 = key then (key, e) else entry

/-- Enter a value under a key with dots. The tables on the way must not have a header of their own,
and the last part of the key must be new. -/
def insert? : List Text → Value → Entries → Option Entries
  | [], _, _ => none
  | [key], v, entries => match entries.lookup key with
    | some _ => none
    | none => some (entries ++ [(key, .value v)])
  | key :: keys, v, entries => match entries.lookup key with
    | none => (insert? keys v []).map fun inner => entries ++ [(key, .table .dotted inner)]
    | some (.table .header _) | some (.tables _ _) | some (.value _) => none
    | some (.table origin inner) =>
      (insert? keys v inner).map fun inner => replace key (.table origin inner) entries

def openTable? (key : Text) (entries : Entries) : Option Entries :=
  match entries.lookup key with
  | none => some (entries ++ [(key, .table .header [])])
  | some (.table .inner inner) => some (replace key (.table .header inner) entries)
  | some _ => none

def openNext? (key : Text) (entries : Entries) : Option Entries :=
  match entries.lookup key with
  | none => some (entries ++ [(key, .tables [] [])])
  | some (.tables finished last) =>
    some (replace key (.tables (finished ++ [.table (entriesToValues last)]) []) entries)
  | some _ => none

def open? (openLast? : Text → Entries → Option Entries) : List Text → Entries → Option Entries
  | [], _ => none
  | [key], entries => openLast? key entries
  | key :: keys, entries => match entries.lookup key with
    | none => (open? openLast? keys []).map fun inner => entries ++ [(key, .table .inner inner)]
    | some (.value _) => none
    | some (.table origin inner) =>
      (open? openLast? keys inner).map fun inner => replace key (.table origin inner) entries
    | some (.tables finished inner) =>
      (open? openLast? keys inner).map fun inner => replace key (.tables finished inner) entries

def update? (change : Entries → Option Entries) : List Text → Entries → Option Entries
  | [], entries => change entries
  | key :: keys, entries => match entries.lookup key with
    | some (.table origin inner) =>
      (update? change keys inner).map fun inner => replace key (.table origin inner) entries
    | some (.tables finished inner) =>
      (update? change keys inner).map fun inner => replace key (.tables finished inner) entries
    | _ => none

end ScriptLint.Toml
