import ScriptLint.Pattern.Meaning
import ScriptLint.Pattern.Reader
import ScriptLint.Pattern.Size

/-!
Patterns from their text.
-/
namespace ScriptLint.Pattern

def parse? (t : Text) : Option Pattern := do
  let tree ← PatternReader.tree? t
  let (p, _) ← tree.meaning? {}
  if p.fits then some p else none

end ScriptLint.Pattern
