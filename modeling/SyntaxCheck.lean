import SyntaxCheck.Ast
import SyntaxCheck.CommandLine.Arguments
import SyntaxCheck.CommandLine.Help
import SyntaxCheck.CommandLine.Program
import SyntaxCheck.CommandLine.Similarity
import SyntaxCheck.Decimal.Binary64
import SyntaxCheck.Discovery.Discovered
import SyntaxCheck.Discovery.IgnoreRules
import SyntaxCheck.Discovery.Root
import SyntaxCheck.Discovery.Walk
import SyntaxCheck.Fault
import SyntaxCheck.FileTree.Node
import SyntaxCheck.FileTree.Path
import SyntaxCheck.FileTree.System
import SyntaxCheck.Grammar.Argument
import SyntaxCheck.Grammar.Atom
import SyntaxCheck.Grammar.Element
import SyntaxCheck.Grammar.Expression
import SyntaxCheck.Grammar.Operator
import SyntaxCheck.Grammar.Parameter
import SyntaxCheck.Grammar.Parser
import SyntaxCheck.Grammar.Pattern
import SyntaxCheck.Grammar.SimpleStatement
import SyntaxCheck.Grammar.Statement
import SyntaxCheck.Grammar.StringContent
import SyntaxCheck.Log
import SyntaxCheck.Main
import SyntaxCheck.Report.Json
import SyntaxCheck.Report.JsonValue
import SyntaxCheck.Report.Lines
import SyntaxCheck.Run.Basic
import SyntaxCheck.Run.CheckedFile
import SyntaxCheck.Settings.Basic
import SyntaxCheck.Settings.File
import SyntaxCheck.Settings.Patch
import SyntaxCheck.Settings.Step
import SyntaxCheck.Source
import SyntaxCheck.Target.Basic
import SyntaxCheck.Target.Places
import SyntaxCheck.Text.Blank
import SyntaxCheck.Text.ByteOrder
import SyntaxCheck.Text.ControlCodes
import SyntaxCheck.Text.Digit
import SyntaxCheck.Text.Identifier
import SyntaxCheck.Text.Letter
import SyntaxCheck.Text.Lines
import SyntaxCheck.Text.Location
import SyntaxCheck.Text.Quoted
import SyntaxCheck.Text.Utf8
import SyntaxCheck.Token.Basic
import SyntaxCheck.Token.Lexer
import SyntaxCheck.Token.SoftKeyword
import SyntaxCheck.Toml.DateTime
import SyntaxCheck.Toml.Document
import SyntaxCheck.Toml.Fault
import SyntaxCheck.Toml.Outline
import SyntaxCheck.Toml.Piece
import SyntaxCheck.Toml.Scalar
import SyntaxCheck.Proofs.SyntaxNode
import SyntaxCheck.Proofs.TargetExposure
import SyntaxCheck.Proofs.DiscoveredFiles
import SyntaxCheck.Proofs.EarliestTarget
import SyntaxCheck.Proofs.NestedBlocks
import SyntaxCheck.Proofs.ExitCode
import SyntaxCheck.Proofs.OutputFlags
import SyntaxCheck.Proofs.QuotedText
import SyntaxCheck.Proofs.ReportLines
import SyntaxCheck.Proofs.FileIsolation
import SyntaxCheck.Proofs.FirstError
import SyntaxCheck.Proofs.EffectiveSettings
import SyntaxCheck.Proofs.SettingsSteps
import SyntaxCheck.Proofs.DiscoveryOrder
import SyntaxCheck.Proofs.RootSpelling
import SyntaxCheck.Proofs.OpenedFiles
import SyntaxCheck.Proofs.IgnoredWork
import SyntaxCheck.Proofs.TargetGrammar
import SyntaxCheck.Proofs.WalkEnd
import SyntaxCheck.Proofs.ReporterItems
import SyntaxCheck.Proofs.JsonGrammar
import SyntaxCheck.Proofs.JsonReading
import SyntaxCheck.Proofs.JsonReport
import SyntaxCheck.Proofs.RepeatedMerges
import SyntaxCheck.Proofs.IgnoredNames
import SyntaxCheck.Proofs.FaithfulLocations
import SyntaxCheck.Proofs.LineEnds
import SyntaxCheck.Proofs.LineEndStyles
import SyntaxCheck.Proofs.ReportedLines
import SyntaxCheck.Proofs.IllFormedBytes
import SyntaxCheck.Proofs.ByteOrderMark
import SyntaxCheck.Proofs.ShiftedLines
