import ReviewGate.CommandLine.Run
import ReviewGate.Json.Reader
import ReviewGate.Main
import ReviewGate.Proofs.Source.Numbering
import ReviewGate.Proofs.Budget.Cover
import ReviewGate.Proofs.Budget.SplitCover
import ReviewGate.Proofs.Source.BlockTracking
import ReviewGate.Proofs.Source.Composition
import ReviewGate.Proofs.Text.LineScan
import ReviewGate.Proofs.Text.FilledLine
import ReviewGate.Proofs.Record.Heading
import ReviewGate.Proofs.Text.Lines
import ReviewGate.Proofs.Record.Sections
import ReviewGate.Proofs.Record.Lookup
import ReviewGate.Proofs.Record.Header
import ReviewGate.Proofs.Record.Rendering
import ReviewGate.Proofs.Record.Appending
import ReviewGate.Proofs.Xml.Elements
import ReviewGate.Proofs.Console.Plain
import ReviewGate.Proofs.Record.Agreement
import ReviewGate.Proofs.Files.Listing
import ReviewGate.Proofs.Files.Following
import ReviewGate.Proofs.Files.Walk
import ReviewGate.Proofs.Files.SourceFiles
import ReviewGate.Proofs.CommandLine.Options
import ReviewGate.Proofs.CommandLine.Task
import ReviewGate.Proofs.Config.Acceptance
import ReviewGate.Proofs.Text.Numeral
import ReviewGate.Proofs.CommandLine.Loading
import ReviewGate.Proofs.Files.Writing
import ReviewGate.Proofs.Number.Quotient
import ReviewGate.Proofs.Number.Ceiling
import ReviewGate.Proofs.Budget.EqualChunks
import ReviewGate.Proofs.Budget.Accounting
import ReviewGate.Proofs.Steps
import ReviewGate.Proofs.Budget.Reporting
import ReviewGate.Proofs.CommandLine.Checking
import ReviewGate.Proofs.CommandLine.Verdict
import ReviewGate.Proofs.CommandLine.Delivery
import ReviewGate.Proofs.CommandLine.Merging
import ReviewGate.Proofs.Record.RuleBook
import ReviewGate.Proofs.Source.Layout
import ReviewGate.Proofs.Text.Reading
import ReviewGate.Proofs.Source.Headers
import ReviewGate.Proofs.Xml.Entities
import ReviewGate.Proofs.Xml.Reader
import ReviewGate.Proofs.Record.TestReport
import ReviewGate.Proofs.Json.Numbers
import ReviewGate.Proofs.Json.Texts
import ReviewGate.Proofs.Json.Characters
import ReviewGate.Proofs.Json.Values
import ReviewGate.Proofs.CommandLine.JsonReports
import ReviewGate.Proofs.Record.HeadingLines
import ReviewGate.Proofs.Record.Alternatives
import ReviewGate.Proofs.Record.HeaderLines
import ReviewGate.Proofs.Record.Regulations
import ReviewGate.Proofs.Record.Context
import ReviewGate.Proofs.Files.Languages
import ReviewGate.Proofs.Files.Reading
import ReviewGate.Proofs.CommandLine.FoundFiles
import ReviewGate.Proofs.Console.Printed
import ReviewGate.Proofs.Record.Headlines
import ReviewGate.Proofs.Budget.Agreement
import ReviewGate.Proofs.Data.Leading
import ReviewGate.Proofs.Config.Entries
import ReviewGate.Proofs.Console.Colour
import ReviewGate.Proofs.Xml.Processor
import ReviewGate.Proofs.Record.AcceptedReport
