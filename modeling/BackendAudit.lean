import BackendAudit.Audit.Env
import BackendAudit.Audit.Manifest
import BackendAudit.Command.Arguments
import BackendAudit.Command.Basic
import BackendAudit.Command.Perform
import BackendAudit.Command.RuleList
import BackendAudit.Config.Basic
import BackendAudit.Config.Document
import BackendAudit.Config.Load
import BackendAudit.Config.Shape
import BackendAudit.Config.Starter
import BackendAudit.Error
import BackendAudit.Files.Fault
import BackendAudit.Files.Path
import BackendAudit.Files.Tree
import BackendAudit.Files.Walk
import BackendAudit.Files.Write
import BackendAudit.Finding
import BackendAudit.Json.Basic
import BackendAudit.Json.Number
import BackendAudit.Json.Parser
import BackendAudit.Json.Printer
import BackendAudit.Main
import BackendAudit.Number.Double
import BackendAudit.Number.Shortest
import BackendAudit.Pattern.Automaton
import BackendAudit.Pattern.Basic
import BackendAudit.Pattern.CharSet
import BackendAudit.Pattern.Expr
import BackendAudit.Pattern.Search
import BackendAudit.Pattern.Syntax.Class
import BackendAudit.Pattern.Syntax.Escape
import BackendAudit.Pattern.Syntax.Flags
import BackendAudit.Pattern.Syntax.Parser
import BackendAudit.Pattern.Tree
import BackendAudit.Probe.Exchange
import BackendAudit.Probe.Job
import BackendAudit.Probe.Pool
import BackendAudit.Proofs.Files.Node
import BackendAudit.Proofs.Files.Path
import BackendAudit.Proofs.Files.Root
import BackendAudit.Proofs.Files.Walk
import BackendAudit.Proofs.Halving
import BackendAudit.Proofs.Pattern.Spans
import BackendAudit.Proofs.Report.Buckets
import BackendAudit.Proofs.Rule.Guard
import BackendAudit.Proofs.Run.Selection
import BackendAudit.Proofs.Run.Trace
import BackendAudit.Proofs.Text.Lines
import BackendAudit.Proofs.Text.Places
import BackendAudit.Report.Document
import BackendAudit.Report.Format
import BackendAudit.Report.PlainText
import BackendAudit.Report.Results
import BackendAudit.Report.Timestamp
import BackendAudit.Rule.Basic
import BackendAudit.Rule.Builtin
import BackendAudit.Rule.Matcher
import BackendAudit.Run.Basic
import BackendAudit.Run.Event
import BackendAudit.Run.Scan
import BackendAudit.Run.Settings
import BackendAudit.Run.Source
import BackendAudit.Scan.Content
import BackendAudit.Scan.Heuristic
import BackendAudit.Text.Blank
import BackendAudit.Text.Case
import BackendAudit.Text.LineIndex
import BackendAudit.Text.Pieces
import BackendAudit.Text.Quoted
import BackendAudit.Text.Utf8
import BackendAudit.Toml.Draft
import BackendAudit.Toml.Numeral
import BackendAudit.Toml.Parser
import BackendAudit.Toml.Text
import BackendAudit.Toml.Value
import BackendAudit.Unicode.Case
import BackendAudit.Unicode.Category
import BackendAudit.Unicode.Property
import BackendAudit.Unicode.Script
import BackendAudit.Unicode.Table
import BackendAudit.Url.Address
import BackendAudit.Url.Domain
import BackendAudit.Url.Fault
import BackendAudit.Url.Host
import BackendAudit.Url.Parser
import BackendAudit.Url.Percent
import BackendAudit.Url.Punycode
import BackendAudit.Proofs.Files.Descent
import BackendAudit.Proofs.Run.Visits
import BackendAudit.Proofs.Run.Targets
import BackendAudit.Proofs.Files.Kinds
import BackendAudit.Proofs.Run.Isolation
import BackendAudit.Proofs.Probe.Pool
import BackendAudit.Proofs.Run.Skips
import BackendAudit.Proofs.Probe.Answers
import BackendAudit.Proofs.Pattern.Attempts
import BackendAudit.Proofs.Pattern.Leftmost
import BackendAudit.Proofs.Rule.Occurrence
import BackendAudit.Proofs.Scan.Places
import BackendAudit.Proofs.Json.Written
import BackendAudit.Proofs.Json.RoundTrip
import BackendAudit.Proofs.Json.Members
import BackendAudit.Proofs.Report.Decoding
import BackendAudit.Proofs.Unambiguous
import BackendAudit.Proofs.Report.PlainText
import BackendAudit.Proofs.Pattern.Passing
import BackendAudit.Proofs.Rule.EmptyMatch
import BackendAudit.Proofs.Rule.Registry
import BackendAudit.Proofs.Scan.Extension
import BackendAudit.Proofs.Pattern.BlankLine
import BackendAudit.Proofs.Rule.BlankLine
import BackendAudit.Proofs.Scan.BlankLines
import BackendAudit.Proofs.Run.Course
import BackendAudit.Proofs.Run.Setup
import BackendAudit.Proofs.Run.Brackets
import BackendAudit.Proofs.Run.Probing
import BackendAudit.Proofs.Audit.Assignment
import BackendAudit.Proofs.Audit.LineByLine
import BackendAudit.Proofs.Audit.Secrecy
import BackendAudit.Proofs.Audit.TrailingComment
import BackendAudit.Proofs.Text.UpperCase
import BackendAudit.Proofs.Audit.LineNumbers
import BackendAudit.Proofs.Audit.Notation
import BackendAudit.Proofs.Audit.Manifest
import BackendAudit.Proofs.Pattern.Language
import BackendAudit.Proofs.Pattern.Recognition
import BackendAudit.Proofs.Scan.Routes
import BackendAudit.Proofs.Rule.Widening
import BackendAudit.Proofs.Rule.Coverage
import BackendAudit.Proofs.Text.CaseFold
import BackendAudit.Proofs.Pattern.Spelling
import BackendAudit.Proofs.Pattern.Starts
import BackendAudit.Proofs.Rule.Builtin
import BackendAudit.Proofs.Scan.Leaks
import BackendAudit.Proofs.Scan.TemplateQuery
import BackendAudit.Proofs.Text.Utf8
import BackendAudit.Proofs.Run.Settings
import BackendAudit.Proofs.Run.SizeLimit
import BackendAudit.Proofs.Rule.Loading
import BackendAudit.Proofs.Probe.Jobs
import BackendAudit.Proofs.Text.LineIndex
import BackendAudit.Proofs.Toml.Keys
import BackendAudit.Proofs.Toml.Order
import BackendAudit.Proofs.Config.Record
import BackendAudit.Proofs.Config.Steady
import BackendAudit.Proofs.Config.Document
import BackendAudit.Proofs.Config.Loading
import BackendAudit.Proofs.Files.Growth
import BackendAudit.Proofs.Run.Growth
import BackendAudit.Proofs.Run.Starter
import BackendAudit.Proofs.Files.Writing
import BackendAudit.Proofs.Command.Scan
import BackendAudit.Proofs.Probe.MediaType
import BackendAudit.Proofs.Run.Contents
import BackendAudit.Proofs.Run.Gate
