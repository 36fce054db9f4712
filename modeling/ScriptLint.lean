import ScriptLint.BinarySearch
import ScriptLint.Collation
import ScriptLint.Command.Arguments
import ScriptLint.Command.Output
import ScriptLint.Command.Run
import ScriptLint.Config.File
import ScriptLint.Config.Options
import ScriptLint.Config.Toml
import ScriptLint.Config.Toml.Entries
import ScriptLint.Config.Toml.Strings
import ScriptLint.Config.Toml.Words
import ScriptLint.Config.Value
import ScriptLint.Diff
import ScriptLint.Edit
import ScriptLint.FileTree
import ScriptLint.Fix
import ScriptLint.Lint.Catalog
import ScriptLint.Lint.Diagnostic
import ScriptLint.Lint.Dispatch
import ScriptLint.Lint.Error
import ScriptLint.Lint.Level
import ScriptLint.Lint.Rule
import ScriptLint.Lint.Settings
import ScriptLint.Linter
import ScriptLint.Main
import ScriptLint.Naming.Casing
import ScriptLint.Naming.Word
import ScriptLint.Path
import ScriptLint.Pattern.Basic
import ScriptLint.Pattern.Brackets
import ScriptLint.Pattern.Escape
import ScriptLint.Pattern.Meaning
import ScriptLint.Pattern.Normal
import ScriptLint.Pattern.Octets
import ScriptLint.Pattern.Parse
import ScriptLint.Pattern.Reader
import ScriptLint.Pattern.Size
import ScriptLint.Pattern.Tree
import ScriptLint.Reordering
import ScriptLint.Rules.CamelCase
import ScriptLint.Rules.Complexity
import ScriptLint.Rules.Destructuring
import ScriptLint.Rules.ImportGroups
import ScriptLint.Rules.ImportMembers
import ScriptLint.Rules.ImportPaths
import ScriptLint.Source
import ScriptLint.Syntax.Concrete
import ScriptLint.Syntax.Globals
import ScriptLint.Syntax.Listing
import ScriptLint.Syntax.Lowering.Builder
import ScriptLint.Syntax.Lowering.Construct
import ScriptLint.Syntax.Lowering.Declarations
import ScriptLint.Syntax.Lowering.Modules
import ScriptLint.Syntax.Lowering.Objects
import ScriptLint.Syntax.Lowering.Program
import ScriptLint.Syntax.Lowering.Types
import ScriptLint.Syntax.Node
import ScriptLint.Syntax.Scope
import ScriptLint.Syntax.Token
import ScriptLint.Syntax.Tree
import ScriptLint.Template
import ScriptLint.Text.Age
import ScriptLint.Text.Basic
import ScriptLint.Text.Blank
import ScriptLint.Text.Breaks
import ScriptLint.Text.CaseMap
import ScriptLint.Text.Category
import ScriptLint.Text.CharRun
import ScriptLint.Text.CharSet
import ScriptLint.Text.Digits
import ScriptLint.Text.Fold
import ScriptLint.Text.Letters
import ScriptLint.Text.Lowercase
import ScriptLint.Text.Numeric
import ScriptLint.Text.Property
import ScriptLint.Text.Query
import ScriptLint.Text.Recent
import ScriptLint.Text.Script
import ScriptLint.Text.Utf8
import ScriptLint.Proofs.Lists
import ScriptLint.Proofs.BinarySearch
import ScriptLint.Proofs.Text.Slices
import ScriptLint.Proofs.Text.Splitting
import ScriptLint.Proofs.Text.Utf8
import ScriptLint.Proofs.Source.Neighbours
import ScriptLint.Proofs.Reordering.Pieces
import ScriptLint.Proofs.Reordering.Edits
import ScriptLint.Proofs.Reordering.Tidy
import ScriptLint.Proofs.Rules.ImportPlan
import ScriptLint.Proofs.Lint.Runs
import ScriptLint.Proofs.Rules.ImportMoves
import ScriptLint.Proofs.Rules.SafeEdits
import ScriptLint.Proofs.Rules.LineComments
import ScriptLint.Proofs.Syntax.Forest
import ScriptLint.Proofs.Syntax.Lowering
import ScriptLint.Proofs.Syntax.WellFormed
import ScriptLint.Proofs.Syntax.Scopes
import ScriptLint.Proofs.Syntax.Declarations
import ScriptLint.Proofs.Syntax.NameRoles
import ScriptLint.Proofs.Syntax.StatementOrder
import ScriptLint.Proofs.Lint.Dispatch
import ScriptLint.Proofs.Edits.Overlaps
import ScriptLint.Proofs.Edits.Substitution
import ScriptLint.Proofs.Fix
import ScriptLint.Proofs.Lint.Independence
import ScriptLint.Proofs.Source.Fitting
import ScriptLint.Proofs.Syntax.Places
import ScriptLint.Proofs.Syntax.LoweredPlaces
import ScriptLint.Proofs.Rules.Findings
import ScriptLint.Proofs.Rules.FittingEdits
import ScriptLint.Proofs.Rules.ImportGroups
import ScriptLint.Proofs.Rules.GroupLayout
import ScriptLint.Proofs.Lint.Shares
import ScriptLint.Proofs.Rules.ComplexityReports
import ScriptLint.Proofs.Naming.Casing
import ScriptLint.Proofs.Naming.CamelWords
import ScriptLint.Proofs.Naming.WordCuts
import ScriptLint.Proofs.Naming.ValidNames
import ScriptLint.Proofs.Naming.Acronyms
import ScriptLint.Proofs.Naming.SnakeNames
import ScriptLint.Proofs.Naming.Suggestions
import ScriptLint.Proofs.Naming.Underscores
import ScriptLint.Proofs.Rules.CamelCaseRelaxing
import ScriptLint.Proofs.Rules.CamelCaseReports
import ScriptLint.Proofs.Collation
import ScriptLint.Proofs.NaturalOrder
import ScriptLint.Proofs.Source.Lines
import ScriptLint.Proofs.Reordering.Runs
import ScriptLint.Proofs.Source.Relocation
import ScriptLint.Proofs.Rules.OrderLayout
import ScriptLint.Proofs.Rules.SortedNeighbours
import ScriptLint.Proofs.Rules.OrderFixedPoint
import ScriptLint.Proofs.Rules.ImportOffers
import ScriptLint.Proofs.Rules.DestructuringOffers
import ScriptLint.Proofs.Path
import ScriptLint.Proofs.FileTree
import ScriptLint.Proofs.Command.Backups
import ScriptLint.Proofs.FixRounds
import ScriptLint.Proofs.Command.FixRuns
import ScriptLint.Proofs.Reordering.Sorting
import ScriptLint.Proofs.Reordering.Carrying
import ScriptLint.Proofs.Reordering.InPlace
import ScriptLint.Proofs.Rules.ImportSorting
import ScriptLint.Proofs.Lint.Calls
import ScriptLint.Proofs.Rules.OrderReports
import ScriptLint.Proofs.Rules.OrderMessages
import ScriptLint.Proofs.Diff.Hunks
import ScriptLint.Proofs.Diff.Patch
import ScriptLint.Proofs.Template
import ScriptLint.Proofs.Source.Positions
import ScriptLint.Proofs.Lint.Levels
import ScriptLint.Proofs.Syntax.FirstError
import ScriptLint.Proofs.Syntax.TokenStream
import ScriptLint.Proofs.Source.Scans
import ScriptLint.Proofs.Rules.MemberComments
