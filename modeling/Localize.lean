import Localize.Build.Asset
import Localize.Build.Event
import Localize.Build.Result
import Localize.Build.Run
import Localize.Build.Selection
import Localize.Catalog.Ingest
import Localize.Catalog.Po.Declared
import Localize.Catalog.Po.Entry
import Localize.Catalog.Po.Line
import Localize.Charset.Basic
import Localize.Charset.Codepage
import Localize.Charset.Escaped
import Localize.Charset.Fault
import Localize.Charset.Multibyte
import Localize.Charset.Name
import Localize.Charset.Portions
import Localize.Charset.Punycode
import Localize.Charset.Shifted
import Localize.Charset.Step
import Localize.Charset.Stream
import Localize.Charset.Table
import Localize.Charset.Table.Chinese
import Localize.Charset.Table.Japanese
import Localize.Charset.Table.Korean
import Localize.Charset.Utf7
import Localize.Charset.Wide
import Localize.Command.Build
import Localize.Command.Check
import Localize.Command.Line
import Localize.Command.Program
import Localize.Command.Result
import Localize.Command.Scan
import Localize.Command.Usage
import Localize.Files.Path
import Localize.Files.Tree
import Localize.Json.Printer
import Localize.Json.Reader
import Localize.Log.Human
import Localize.Log.Message
import Localize.Log.Record
import Localize.Log.Sinks
import Localize.Log.Time
import Localize.Main
import Localize.Nugget.Basic
import Localize.Nugget.Scan
import Localize.Number.Binary
import Localize.Number.Shortest
import Localize.Number.Significant
import Localize.Number.Written
import Localize.Proofs.Build.Accounts
import Localize.Proofs.Build.Again
import Localize.Proofs.Build.Agreement
import Localize.Proofs.Build.Alike
import Localize.Proofs.Build.Arrival
import Localize.Proofs.Build.Context
import Localize.Proofs.Build.Course
import Localize.Proofs.Build.Discovery
import Localize.Proofs.Build.Errors
import Localize.Proofs.Build.Failures
import Localize.Proofs.Build.Growth
import Localize.Proofs.Build.InPlace
import Localize.Proofs.Build.Json
import Localize.Proofs.Build.Names
import Localize.Proofs.Build.Outcomes
import Localize.Proofs.Build.Placing
import Localize.Proofs.Build.Processing
import Localize.Proofs.Build.Reach
import Localize.Proofs.Build.Start
import Localize.Proofs.Build.Step
import Localize.Proofs.Build.Told
import Localize.Proofs.Build.Workers
import Localize.Proofs.Build.Writing
import Localize.Proofs.Catalog.Keys
import Localize.Proofs.Catalog.Literal
import Localize.Proofs.Catalog.Named
import Localize.Proofs.Catalog.Wordings
import Localize.Proofs.Catalog.Written
import Localize.Proofs.Charset.Portions
import Localize.Proofs.Command.Accounts
import Localize.Proofs.Command.Checked
import Localize.Proofs.Command.Context
import Localize.Proofs.Command.Refusals
import Localize.Proofs.Files.Alike
import Localize.Proofs.Files.Change
import Localize.Proofs.Files.Growth
import Localize.Proofs.Files.Path
import Localize.Proofs.Files.Tree
import Localize.Proofs.Files.WellFormed
import Localize.Proofs.Json.Nodes
import Localize.Proofs.Json.Numerals
import Localize.Proofs.Json.Strings
import Localize.Proofs.Log.Entry
import Localize.Proofs.Log.People
import Localize.Proofs.Nugget.Arguments
import Localize.Proofs.Nugget.Body
import Localize.Proofs.Nugget.Comment
import Localize.Proofs.Nugget.Greedy
import Localize.Proofs.Nugget.LineEnds
import Localize.Proofs.Nugget.Pattern
import Localize.Proofs.Nugget.Pieces
import Localize.Proofs.Nugget.Replacement
import Localize.Proofs.Nugget.Segments
import Localize.Proofs.Nugget.Settled
import Localize.Proofs.Nugget.Written
import Localize.Proofs.Resolution.Accounting
import Localize.Proofs.Resolution.Comments
import Localize.Proofs.Resolution.Filling
import Localize.Proofs.Resolution.Leftovers
import Localize.Proofs.Resolution.LineEnds
import Localize.Proofs.Resolution.Locality
import Localize.Proofs.Resolution.Passes
import Localize.Proofs.Resolution.Quoted
import Localize.Proofs.Resolution.Reading
import Localize.Proofs.Resolution.Spelling
import Localize.Proofs.Resolution.Splicing
import Localize.Proofs.Settings.Fields
import Localize.Proofs.Settings.Merging
import Localize.Proofs.Settings.Overlays
import Localize.Proofs.Settings.Paths
import Localize.Proofs.Settings.Precedence
import Localize.Proofs.Settings.Refusals
import Localize.Proofs.Text.Bytes
import Localize.Proofs.Text.LineEnds
import Localize.Proofs.Text.Utf8
import Localize.Proofs.Value.Keys
import Localize.Proofs.Yaml.Script
import Localize.Report
import Localize.Resolution.Escape
import Localize.Resolution.Placeholder
import Localize.Resolution.Policy
import Localize.Resolution.Splice
import Localize.Settings.Document
import Localize.Settings.Integer
import Localize.Settings.Load
import Localize.Settings.Schema
import Localize.Settings.Validate
import Localize.Text.Base64
import Localize.Text.Basic
import Localize.Text.Likeness
import Localize.Text.Quoted
import Localize.Text.Utf8
import Localize.Unicode.Blank
import Localize.Unicode.Decimal
import Localize.Unicode.LowerCase
import Localize.Unicode.Printable
import Localize.Value.Arguments
import Localize.Value.Assembly
import Localize.Value.Basic
import Localize.Yaml.Cursor
import Localize.Yaml.Document
import Localize.Yaml.Merge
import Localize.Yaml.Node
import Localize.Yaml.Object
import Localize.Yaml.Scalar
import Localize.Yaml.Script
import Localize.Yaml.Stream
import Localize.Yaml.Token
