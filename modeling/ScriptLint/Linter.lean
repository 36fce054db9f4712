import ScriptLint.Rules.CamelCase
import ScriptLint.Rules.Complexity
import ScriptLint.Rules.Destructuring
import ScriptLint.Rules.ImportMembers
import ScriptLint.Rules.ImportPaths

/-!
The linter: which rules run, with which options and levels, and what they find in a text.
-/
namespace ScriptLint

structure RuleOptions where
  complexity : ComplexityOptions := {}
  destructuring : Collation := {}
  importMembers : ImportMembersOptions := {}
  importPaths : ImportPathsOptions := {}
  camelCase : CamelCaseOptions := {}
  deriving DecidableEq, Repr

/-- One rule for each lint. Of several rules that refuse their options the first one counts. -/
def RuleOptions.rules (o : RuleOptions) (detail : Bool) : Except OptionError (List Rule) := do
  let complexity ← Complexity.rule? o.complexity
  let importPaths ← ImportPaths.rule? o.importPaths
  let camelCase ← CamelCase.rule? detail o.camelCase
  return [complexity, Destructuring.rule o.destructuring, ImportMembers.rule o.importMembers,
    importPaths, camelCase]

/-- Names of lints to run and not to run. An empty `only` stands for all lints. -/
structure Selection where
  only : List String := []
  skip : List String := []
  disabled : List String := []
  deriving DecidableEq, Repr

namespace Selection

def names (s : Selection) : List String := s.only ++ s.skip ++ s.disabled

def includes (s : Selection) (lint : Lint) : Bool :=
  (s.only.isEmpty || (s.only.map Lint.canonical).contains lint.name) &&
    !((s.skip ++ s.disabled).map Lint.canonical).contains lint.name

def rules (s : Selection) (o : RuleOptions) (detail : Bool) : Except LintError (List Rule) :=
  match s.names.find? (!Lint.isKnownName ·) with
  | some name => .error (.unknownLint name)
  | none => match o.rules detail with
    | .error cause => .error (.invalidOption cause)
    | .ok rules => .ok (rules.filter fun r => s.includes r.lint)

end Selection

def SourceFile.parse (grammar : Grammar) (dialect : Dialect) (text : Text) (globals : List Text) :
    Except LintError SourceFile :=
  match grammar dialect text with
  | none => .error .noTree
  | some root =>
    if root.info.hasError then .error (.brokenSource ((root.firstErrorLine? text).getD 1))
    else .ok (.ofConcrete text root globals)

structure Linter where
  rules : List Rule
  settings : Settings := {}
  /-- Names that count as declared everywhere. -/
  globals : List Text := []

namespace Linter

def lintFile (l : Linter) (file : SourceFile) : Except LintError (List Diagnostic) :=
  match runRules l.rules l.settings file with
  | (diagnostics, none) => .ok diagnostics
  | (_, some e) => .error e

def lint (l : Linter) (grammar : Grammar) (dialect : Dialect) (text : Text) :
    Except LintError (List Diagnostic) :=
  match SourceFile.parse grammar dialect text l.globals with
  | .error e => .error e
  | .ok file => l.lintFile file

end Linter

end ScriptLint
