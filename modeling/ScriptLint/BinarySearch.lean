/-!
Binary search for the place where a property of sorted entries ends.
-/
namespace ScriptLint

def partitionFrom (entries : Array α) (p : α → Bool) (base size : Nat) : Nat :=
  if h : 1 < size then
    let middle := base + size / 2
    partitionFrom entries p (if entries[middle]?.any p then middle else base) (size - size / 2)
  else if entries[base]?.any p then base + 1 else base
termination_by size
decreasing_by omega

def partitionPoint (entries : Array α) (p : α → Bool) : Nat :=
  partitionFrom entries p 0 entries.size

end ScriptLint
