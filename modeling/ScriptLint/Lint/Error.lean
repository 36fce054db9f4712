import ScriptLint.Lint.Catalog
import ScriptLint.Syntax.Tree

/-!
Why linting a file can fail.
-/
namespace ScriptLint

def firstRepeated? {α : Type _} [DecidableEq α] (seen : List α) : List α → Option α
  | [] => none
  | item :: items => if item ∈ seen then some item else firstRepeated? (item :: seen) items

inductive OptionError where
  | repeatedOperator (operator : String)
  | repeatedIdentifier (name : Text)
  | repeatedPosition (position : String)
  | badPattern (pattern : Text)
  deriving DecidableEq, Repr

namespace OptionError

def lint : OptionError → Lint
  | repeatedOperator _ => .logicalExpressionComplexity
  | repeatedIdentifier _ | repeatedPosition _ => .strictCamelCase
  | badPattern _ => .orderedImportsByPath

def reason : OptionError → String
  | repeatedOperator operator => s!"binary_operators lists `{operator}` more than once"
  | repeatedIdentifier name => s!"`ignored_identifiers` lists `{String.ofList name}` twice"
  | repeatedPosition position => s!"`ignore_single_words_in` lists `{position}` twice"
  | badPattern pattern => s!"group `{String.ofList pattern}` is not a valid pattern"

end OptionError

inductive LintError where
  | brokenSource (line : Nat)
  | noTree
  | missingPlace (tag : NodeTag)
  | invalidOption (cause : OptionError)
  | unknownLint (name : String)
  | unknownMessage (lint : Lint) (id : String)
  | noClosingBrace (after : Span)
  | rootNotProgram
  | ungroupedImport (path : Text)
  deriving DecidableEq, Repr

def LintError.message : LintError → String
  | brokenSource line => s!"failed to parse source: syntax error at line {line}"
  | noTree => "parser failure: no tree for the source"
  | missingPlace tag => s!"node `{tag.placeName}` has no source range"
  | invalidOption cause => s!"invalid option for `{cause.lint.name}`: {cause.reason}"
  | unknownLint name => s!"unknown lint: {name}"
  | unknownMessage lint id => s!"`{lint.name}` has no message `{id}`"
  | noClosingBrace after => s!"no `\x7d` after sorted entries at {after.describe}"
  | rootNotProgram => "tree root is not a program"
  | ungroupedImport path => s!"no group accepts import `{String.ofList path}`"

def Tree.place (t : Tree) (id : NodeId) : Except LintError Span :=
  match t.span? id with
  | some span => .ok span
  | none => .error (.missingPlace (t.tag id))

end ScriptLint
