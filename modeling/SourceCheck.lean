import SourceCheck.StandIn.Awk.Builtin
import SourceCheck.StandIn.Awk.Reader
import SourceCheck.StandIn.Awk.Record
import SourceCheck.StandIn.Awk.Run
import SourceCheck.StandIn.Awk.State
import SourceCheck.StandIn.Awk.Syntax
import SourceCheck.StandIn.Awk.Table
import SourceCheck.StandIn.Awk.Token
import SourceCheck.StandIn.Awk.Value
import SourceCheck.Calendar.Moment
import SourceCheck.Check.Run
import SourceCheck.Check.RunLog
import SourceCheck.Check.Schedule
import SourceCheck.Command.Echo
import SourceCheck.Command.Line
import SourceCheck.Command.Request
import SourceCheck.Command.Run
import SourceCheck.Command.Template
import SourceCheck.Finding.Basic
import SourceCheck.Finding.CheckKind
import SourceCheck.Finding.Listing
import SourceCheck.Finding.Output
import SourceCheck.Finding.ReportLine
import SourceCheck.Finding.Severity
import SourceCheck.Host.Basic
import SourceCheck.StandIn.FileMode
import SourceCheck.Host.FileSystem
import SourceCheck.StandIn.Image
import SourceCheck.Json.Reader
import SourceCheck.Json.Writer
import SourceCheck.Log.Coding
import SourceCheck.Log.Entry
import SourceCheck.Log.Grammar
import SourceCheck.Log.Level
import SourceCheck.Log.Normalise
import SourceCheck.Log.Raised
import SourceCheck.Log.RaisedFault
import SourceCheck.Log.Record
import SourceCheck.Log.Setup
import SourceCheck.Log.Template
import SourceCheck.Main
import SourceCheck.Number.Arithmetic
import SourceCheck.Number.Double
import SourceCheck.Number.Fixed
import SourceCheck.Number.Reading
import SourceCheck.Number.Shortest
import SourceCheck.Options.Basic
import SourceCheck.Options.Discovery
import SourceCheck.Options.Issue
import SourceCheck.Options.Validate
import SourceCheck.Path.Basic
import SourceCheck.Path.Canonical
import SourceCheck.StandIn.Regex.Matching
import SourceCheck.StandIn.Regex.Reader
import SourceCheck.StandIn.Regex.Syntax
import SourceCheck.StandIn.Shell.Arithmetic
import SourceCheck.StandIn.Shell.Builtin.Basic
import SourceCheck.StandIn.Shell.Builtin.Directory
import SourceCheck.StandIn.Shell.Builtin.Jobs
import SourceCheck.StandIn.Shell.Builtin.Names
import SourceCheck.StandIn.Shell.Builtin.Table
import SourceCheck.StandIn.Shell.Builtin.Variables
import SourceCheck.StandIn.Shell.Condition
import SourceCheck.StandIn.Shell.Fields
import SourceCheck.StandIn.Shell.Numeral
import SourceCheck.StandIn.Shell.Octets
import SourceCheck.StandIn.Shell.Options
import SourceCheck.StandIn.Shell.Pattern
import SourceCheck.StandIn.Shell.Printf
import SourceCheck.StandIn.Shell.Process
import SourceCheck.StandIn.Shell.Reader
import SourceCheck.StandIn.Shell.Redirection
import SourceCheck.StandIn.Shell.Run
import SourceCheck.StandIn.Shell.Script
import SourceCheck.StandIn.Shell.Simple
import SourceCheck.StandIn.Shell.Syntax
import SourceCheck.StandIn.Shell.Token
import SourceCheck.StandIn.Shell.Words
import SourceCheck.StandIn.Shell.World
import SourceCheck.Text.Alphanumeric
import SourceCheck.Text.Blank
import SourceCheck.Text.Casing
import SourceCheck.Text.DecimalDigit
import SourceCheck.Text.Field
import SourceCheck.Text.Lines
import SourceCheck.Text.Lowercase
import SourceCheck.Text.Printable
import SourceCheck.Text.Quoted
import SourceCheck.Text.Radix
import SourceCheck.Text.Ranges
import SourceCheck.Text.ShellWords
import SourceCheck.Text.Utf8
import SourceCheck.Toml.Fault
import SourceCheck.Toml.Reader
import SourceCheck.Toml.Scalar
import SourceCheck.Toml.Table
import SourceCheck.Tool.Draft
import SourceCheck.Tool.Effect
import SourceCheck.Tool.Invocation
import SourceCheck.Tool.Locate
import SourceCheck.Tool.Process
import SourceCheck.Tool.Run
import SourceCheck.StandIn.System
import SourceCheck.StandIn.Utility.Awk
import SourceCheck.StandIn.Utility.Basic
import SourceCheck.StandIn.Utility.Checksums
import SourceCheck.StandIn.Utility.Columns
import SourceCheck.StandIn.Utility.Content
import SourceCheck.StandIn.Utility.Copying
import SourceCheck.StandIn.Utility.Counting
import SourceCheck.StandIn.Utility.Dates
import SourceCheck.StandIn.Utility.Diff
import SourceCheck.StandIn.Utility.DiffBeside
import SourceCheck.StandIn.Utility.DiffChanges
import SourceCheck.StandIn.Utility.Dump
import SourceCheck.StandIn.Utility.Encoding
import SourceCheck.StandIn.Utility.Expr
import SourceCheck.StandIn.Utility.Fields
import SourceCheck.StandIn.Utility.Files
import SourceCheck.StandIn.Utility.Find
import SourceCheck.StandIn.Utility.FindQuery
import SourceCheck.StandIn.Utility.Grep
import SourceCheck.StandIn.Utility.Launching
import SourceCheck.StandIn.Utility.Layout
import SourceCheck.StandIn.Utility.Listing
import SourceCheck.StandIn.Utility.Moves
import SourceCheck.StandIn.Utility.Names
import SourceCheck.StandIn.Utility.Numbers
import SourceCheck.StandIn.Utility.Options
import SourceCheck.StandIn.Utility.Paragraphs
import SourceCheck.StandIn.Utility.Plain
import SourceCheck.StandIn.Utility.Precedence
import SourceCheck.StandIn.Utility.Sed
import SourceCheck.StandIn.Utility.SedScript
import SourceCheck.StandIn.Utility.Sorting
import SourceCheck.StandIn.Utility.Splitting
import SourceCheck.StandIn.Utility.Table
import SourceCheck.StandIn.Utility.Translation
import SourceCheck.StandIn.Utility.Units
import SourceCheck.StandIn.Utility.VersionOrder
import SourceCheck.Value.Basic
import SourceCheck.Value.Display
import SourceCheck.Proofs.Output.Lines
import SourceCheck.Proofs.Output.Segments
import SourceCheck.Proofs.Output.Grammar
import SourceCheck.Proofs.Output.RoundTrip
import SourceCheck.Proofs.Check.Runs
import SourceCheck.Proofs.Tool.Traces
import SourceCheck.Proofs.Check.Prepare
import SourceCheck.Proofs.Check.Merge
import SourceCheck.Proofs.Check.Blocks
import SourceCheck.Proofs.Check.Failures
import SourceCheck.Proofs.Check.Stopping
import SourceCheck.Proofs.Check.Refusals
import SourceCheck.Proofs.Options.Loading
import SourceCheck.Proofs.Output.Continuations
import SourceCheck.Proofs.Output.Concatenation
import SourceCheck.Proofs.Output.Noise
import SourceCheck.Proofs.Tool.Accounts
import SourceCheck.Proofs.Path.Names
import SourceCheck.Proofs.Output.Places
import SourceCheck.Proofs.Command.Settings
import SourceCheck.Proofs.Options.Limits
import SourceCheck.Proofs.Options.Searching
import SourceCheck.Proofs.Text.Octets
import SourceCheck.Proofs.Tool.Loaders
import SourceCheck.Proofs.Tool.Binaries
import SourceCheck.Proofs.Tool.Lookups
import SourceCheck.Proofs.Output.Listings
import SourceCheck.Proofs.Json.Strings
import SourceCheck.Proofs.Json.Values
import SourceCheck.Proofs.Number.Digits
import SourceCheck.Proofs.Command.Answers
import SourceCheck.Proofs.Host.Walks
import SourceCheck.Proofs.Path.Canonical
import SourceCheck.Proofs.Options.Links
import SourceCheck.Proofs.Options.Independence
import SourceCheck.Proofs.Options.Spellings
import SourceCheck.Proofs.Options.NormalForm
import SourceCheck.Proofs.Text.Quotations
import SourceCheck.Proofs.Options.Flags
import SourceCheck.Proofs.Text.Subparts
import SourceCheck.Proofs.Output.OctetLines
import SourceCheck.Proofs.Output.Readings
import SourceCheck.Proofs.Output.LongNumbers
import SourceCheck.Proofs.Check.Findings
import SourceCheck.Proofs.Host.Changes
import SourceCheck.Proofs.Toml.Switches
import SourceCheck.Proofs.Command.Template
import SourceCheck.Proofs.Command.LeftToRight
import SourceCheck.Proofs.Command.Precedence
import SourceCheck.Proofs.Number.Rounding
import SourceCheck.Proofs.Number.Shortest
import SourceCheck.Proofs.Json.Numbers
import SourceCheck.Proofs.Log.Instants
import SourceCheck.Proofs.Log.Entries
import SourceCheck.Proofs.Text.Words
import SourceCheck.Proofs.Output.SeverityWords
