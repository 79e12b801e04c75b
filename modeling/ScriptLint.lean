import ScriptLint.Casing
import ScriptLint.CommandLine
import ScriptLint.Config
import ScriptLint.Decimal.Scaled
import ScriptLint.Decimal.Shortest
import ScriptLint.Diagnostic
import ScriptLint.Edit
import ScriptLint.Files.Access
import ScriptLint.Files.Cache
import ScriptLint.Files.Disk
import ScriptLint.Files.Glob
import ScriptLint.Files.Memory
import ScriptLint.Files.ModulePath
import ScriptLint.FixPass
import ScriptLint.Json.Basic
import ScriptLint.Json.Decode
import ScriptLint.Json.Reader
import ScriptLint.Json.Token
import ScriptLint.Json.Writer
import ScriptLint.Main
import ScriptLint.ModuleRequest
import ScriptLint.PartitionPoint
import ScriptLint.Patch
import ScriptLint.Path
import ScriptLint.Proofs.CaptureFree
import ScriptLint.Proofs.ChildDocuments
import ScriptLint.Proofs.CombinedFixes
import ScriptLint.Proofs.ConsistentPatches
import ScriptLint.Proofs.DeclaringSteps
import ScriptLint.Proofs.InnermostScopes
import ScriptLint.Proofs.LoadedTree
import ScriptLint.Proofs.LoaderRun
import ScriptLint.Proofs.QualifierReads
import ScriptLint.Proofs.References
import ScriptLint.Proofs.RenamedRoles
import ScriptLint.Proofs.Reordering
import ScriptLint.Proofs.ScopeChain
import ScriptLint.Proofs.ScopeTables
import ScriptLint.Proofs.Slots
import ScriptLint.Proofs.SplicedText
import ScriptLint.Proofs.TokenNavigation
import ScriptLint.Proofs.Traversal
import ScriptLint.Proofs.TreeLinks
import ScriptLint.Proofs.TreeWalk
import ScriptLint.Refactor.BlankLine
import ScriptLint.Refactor.Identifier
import ScriptLint.Refactor.Rename
import ScriptLint.Refactor.Reorder
import ScriptLint.Regex.Bracket
import ScriptLint.Regex.ByteRange
import ScriptLint.Regex.CharSet
import ScriptLint.Regex.Escape
import ScriptLint.Regex.Flags
import ScriptLint.Regex.Footprint
import ScriptLint.Regex.Layout
import ScriptLint.Regex.Parser
import ScriptLint.Regex.Pattern
import ScriptLint.Regex.Program
import ScriptLint.Regex.Search
import ScriptLint.Regex.Whole
import ScriptLint.Regex.WordTree
import ScriptLint.Rule.Basic
import ScriptLint.Rule.CommentStyle
import ScriptLint.Rule.Concurrency
import ScriptLint.Rule.ExportName
import ScriptLint.Rule.ImportName
import ScriptLint.Rule.ImportShape
import ScriptLint.Rule.IndexImport
import ScriptLint.Rule.Ordering
import ScriptLint.Rule.Padding
import ScriptLint.Rule.Registry
import ScriptLint.Rule.TypeExports
import ScriptLint.Scope.Build
import ScriptLint.Scope.Declare
import ScriptLint.Scope.Graph
import ScriptLint.Scope.Pattern
import ScriptLint.Scope.Role
import ScriptLint.Session
import ScriptLint.Shell.Checksum
import ScriptLint.Shell.Run
import ScriptLint.Shell.Script
import ScriptLint.Shell.Tool
import ScriptLint.SourceFile
import ScriptLint.Syntax.Document
import ScriptLint.Syntax.Kind
import ScriptLint.Syntax.Loader
import ScriptLint.Syntax.Source
import ScriptLint.Syntax.Token
import ScriptLint.Syntax.Tree
import ScriptLint.Text.Basic
import ScriptLint.Text.Blank
import ScriptLint.Text.Lines
import ScriptLint.Text.Span
import ScriptLint.Text.Units
import ScriptLint.TypeDefinition
import ScriptLint.Unicode.Age
import ScriptLint.Unicode.Binary
import ScriptLint.Unicode.CaseMap
import ScriptLint.Unicode.Category
import ScriptLint.Unicode.CodeSet
import ScriptLint.Unicode.Fold
import ScriptLint.Unicode.Letter
import ScriptLint.Unicode.Property
import ScriptLint.Unicode.Range
import ScriptLint.Unicode.Script
import ScriptLint.Unicode.Segment
import ScriptLint.Proofs.RecursiveLoading
import ScriptLint.Proofs.LoadErrors
import ScriptLint.Proofs.NestedSpans
import ScriptLint.Proofs.LineOffsets
import ScriptLint.Proofs.AnchoredSources
import ScriptLint.Proofs.FittingEdits
import ScriptLint.Proofs.FittingFixes
import ScriptLint.Proofs.OfferedFixes
import ScriptLint.Proofs.SimultaneousEdits
import ScriptLint.Proofs.GreedyFixes
import ScriptLint.Proofs.BindingPatterns
import ScriptLint.Proofs.DeclaredIdentifiers
import ScriptLint.Proofs.DeclarationLog
import ScriptLint.Proofs.DeclaringRun
import ScriptLint.Proofs.BoundIdentifiers
import ScriptLint.Proofs.ScopeMirror
import ScriptLint.Proofs.ReferentialIntegrity
import ScriptLint.Proofs.BindingRoles
import ScriptLint.Proofs.RememberedAnswers
import ScriptLint.Proofs.RepeatedFiles
import ScriptLint.Proofs.Enclosure
import ScriptLint.Proofs.SiblingScopes
import ScriptLint.Proofs.ReadMembers
import ScriptLint.Proofs.KeptMembers
import ScriptLint.Proofs.CompleteTrees
import ScriptLint.Proofs.AccountedRuns
import ScriptLint.Proofs.CompatibleEdits
import ScriptLint.Proofs.ReorderedText
import ScriptLint.Proofs.SwallowedCode
import ScriptLint.Proofs.ExactRenames
import ScriptLint.Proofs.Initializers
import ScriptLint.Proofs.HoistedNames
import ScriptLint.Proofs.LinesBetween
import ScriptLint.Proofs.ShiftedPlaces
import ScriptLint.Proofs.CheckedGaps
import ScriptLint.Proofs.BlankLineEdits
import ScriptLint.Proofs.PaddedStatements
import ScriptLint.Proofs.AdjacentTokens
import ScriptLint.Proofs.PaddedBlocks
import ScriptLint.Proofs.PathComponents
import ScriptLint.Proofs.ResolvedPaths
import ScriptLint.Proofs.IndexPaths
import ScriptLint.Proofs.UnitOffsets
import ScriptLint.Proofs.ConvertedOffsets
import ScriptLint.Proofs.LinearScans
import ScriptLint.Proofs.AnchoredMatches
import ScriptLint.Proofs.CharacterSets
import ScriptLint.Proofs.CommentPatterns
import ScriptLint.Proofs.BlankLines
import ScriptLint.Proofs.PriorityOrder
import ScriptLint.Proofs.RestoredImports
import ScriptLint.Proofs.Capitals
import ScriptLint.Proofs.CommentPlaces
import ScriptLint.Proofs.SettledComments
import ScriptLint.Proofs.TreeNavigation
import ScriptLint.Proofs.StableSorting
import ScriptLint.Proofs.ConsistentNodes
import ScriptLint.Proofs.PlaceOrder
import ScriptLint.Proofs.ReportedPlaces
import ScriptLint.Proofs.SourceOrder
import ScriptLint.Proofs.StringLiterals
import ScriptLint.Proofs.WrittenSpecifiers
import ScriptLint.Proofs.SmallestCovers
import ScriptLint.Proofs.NormalPaths
import ScriptLint.Proofs.NameWords
import ScriptLint.Proofs.ConvertedNames
import ScriptLint.Proofs.StableNames
import ScriptLint.Proofs.LeadingComments
import ScriptLint.Proofs.CachedDisks
import ScriptLint.Proofs.CompletedRuns
