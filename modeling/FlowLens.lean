import FlowLens.Text.Basic
import FlowLens.Text.Blank
import FlowLens.Text.Digit
import FlowLens.Text.Cased
import FlowLens.Text.LowerCase
import FlowLens.Text.Printable
import FlowLens.Number.Double
import FlowLens.Number.Digits
import FlowLens.Number.IntegerText
import FlowLens.Number.Shortest
import FlowLens.Text.Quoted
import FlowLens.Document.Value
import FlowLens.Json.Reader
import FlowLens.Json.Printer
import FlowLens.Path.Basic
import FlowLens.Path.FileName
import FlowLens.Schema.Checked
import FlowLens.Schema.Scalar
import FlowLens.Report.Position
import FlowLens.Report.Entry
import FlowLens.Report.Severity
import FlowLens.Report.Rule
import FlowLens.Report.Diagnostic
import FlowLens.Report.Coverage
import FlowLens.Report.Envelope
import FlowLens.Number.Amount
import FlowLens.Report.Offset
import FlowLens.Report.Reference
import FlowLens.Report.Summary
import FlowLens.Process.Call
import FlowLens.Process.Script
import FlowLens.Checker.Ledger
import FlowLens.Checker.Basic
import FlowLens.Checker.Collect
import FlowLens.Text.Utf8
import FlowLens.Text.Width
import FlowLens.Text.Word
import FlowLens.Text.Similar
import FlowLens.System.FileTree
import FlowLens.System.Host
import FlowLens.Toml.Scalar
import FlowLens.Toml.Draft
import FlowLens.Toml.Reader
import FlowLens.Settings.Basic
import FlowLens.Settings.Locate
import FlowLens.Console.EmojiNames
import FlowLens.Console.Emoji
import FlowLens.Console.Color
import FlowLens.Console.Printout
import FlowLens.Console.Style
import FlowLens.Console.Theme
import FlowLens.Console.Wrap
import FlowLens.Console.StyledText
import FlowLens.Console.Terminal
import FlowLens.Console.Announce
import FlowLens.Console.Columns
import FlowLens.Console.Literal
import FlowLens.Console.Literal.Expression
import FlowLens.Console.Literal.Grammar
import FlowLens.Console.Literal.Parser
import FlowLens.Console.Literal.Slips
import FlowLens.Console.Literal.Token
import FlowLens.Console.Markup
import FlowLens.Console.Table
import FlowLens.Process.Located
import FlowLens.Process.Spawn
import FlowLens.Checker.Shared
import FlowLens.CommandLine.Options
import FlowLens.CommandLine.Run
import FlowLens.Shell.Numeral
import FlowLens.Shell.Octets
import FlowLens.Shell.Script
import FlowLens.Shell.Reader.Source
import FlowLens.Shell.Reader
import FlowLens.Shell.Pattern
import FlowLens.Shell.Arithmetic
import FlowLens.Shell.Format
import FlowLens.Shell.Signals
import FlowLens.Shell.State
import FlowLens.Shell.Field
import FlowLens.Shell.Expand
import FlowLens.Shell.Check
import FlowLens.Shell.Programs
import FlowLens.Shell.Builtin.Arguments
import FlowLens.Shell.Builtin.Directories
import FlowLens.Shell.Builtin.Jobs
import FlowLens.Shell.Builtin.Lookup
import FlowLens.Shell.Builtin.Options
import FlowLens.Shell.Builtin.Output
import FlowLens.Shell.Builtin.Traps
import FlowLens.Shell.Builtin.Variables
import FlowLens.Shell.Builtins
import FlowLens.Shell.Evaluation.Process
import FlowLens.Shell.Evaluation.Redirection
import FlowLens.Shell.Evaluation.Start
import FlowLens.Shell.Evaluation.Simple
import FlowLens.Shell.Evaluation.Compound
import FlowLens.Shell.Run
import FlowLens.Proofs.Passing
import FlowLens.Proofs.DigitLimit
import FlowLens.Proofs.Wording
import FlowLens.Proofs.Telling
import FlowLens.Proofs.Ledger
import FlowLens.Proofs.StopLedger
import FlowLens.Proofs.Fields
import FlowLens.Proofs.Override
import FlowLens.Proofs.SharedCheckers
import FlowLens.Proofs.SharedLedger
import FlowLens.Proofs.Interleaving
import FlowLens.Proofs.Debugging
import FlowLens.Proofs.Substitution
import FlowLens.Proofs.LowerCase
import FlowLens.Proofs.Verdict
import FlowLens.Proofs.Sorting
import FlowLens.Proofs.CommandCalls
import FlowLens.Proofs.Announcements
import FlowLens.Proofs.CommandVerdict
import FlowLens.Proofs.StopFaults
import FlowLens.Proofs.Spelling
import FlowLens.Proofs.Embedding
import FlowLens.Proofs.Encoding
import FlowLens.Proofs.TomlDigits
import FlowLens.Proofs.DoubleValue
import FlowLens.Proofs.SettingsFaults
import FlowLens.Proofs.Rounding
import FlowLens.Proofs.Percentage
import FlowLens.Proofs.Counts
import FlowLens.Proofs.NearestChecker
import FlowLens.Proofs.SourceReading
import FlowLens.Proofs.ProgramSearch
import FlowLens.Proofs.Whereabouts
import FlowLens.Proofs.Classification
import FlowLens.Proofs.Rechecking
import FlowLens.Proofs.Payloads
import FlowLens.Proofs.Escapes
import FlowLens.Proofs.ReadingBack
