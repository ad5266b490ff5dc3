import CellExchange.Bucket.Basic
import CellExchange.Bucket.Key
import CellExchange.Bucket.Remote
import CellExchange.Bucket.Upload
import CellExchange.Cell
import CellExchange.Column
import CellExchange.CommandLine.Arguments
import CellExchange.CommandLine.Command
import CellExchange.Csv.Document
import CellExchange.Csv.Position
import CellExchange.Csv.Record
import CellExchange.Double.Basic
import CellExchange.Double.Decimal
import CellExchange.Event
import CellExchange.Export.Publication
import CellExchange.Export.Snapshot
import CellExchange.Failure
import CellExchange.Files
import CellExchange.Gzip.Checksum
import CellExchange.Gzip.Delivery
import CellExchange.Gzip.Inflate
import CellExchange.Gzip.Member
import CellExchange.HostName
import CellExchange.HostNumber
import CellExchange.Import.CellFile
import CellExchange.Import.Download
import CellExchange.Import.Entry
import CellExchange.Import.Load
import CellExchange.Instant.Basic
import CellExchange.Instant.Calendar
import CellExchange.Job
import CellExchange.Main
import CellExchange.Numeral
import CellExchange.Outside
import CellExchange.Path
import CellExchange.Pattern.Basic
import CellExchange.Pattern.CharSet
import CellExchange.Pattern.Class
import CellExchange.Pattern.Parser
import CellExchange.Program.LogFilter
import CellExchange.Program.Run
import CellExchange.Program.Services
import CellExchange.Program.Variables
import CellExchange.Proofs.Bucket.Answers
import CellExchange.Proofs.Bucket.Key
import CellExchange.Proofs.Bucket.Parts
import CellExchange.Proofs.Bucket.Transfer
import CellExchange.Proofs.Bucket.Upload
import CellExchange.Proofs.Csv.Lines
import CellExchange.Proofs.Double.Decimal
import CellExchange.Proofs.Double.Rounding
import CellExchange.Proofs.Export.FixedPoint
import CellExchange.Proofs.Export.Growing
import CellExchange.Proofs.Export.Hours
import CellExchange.Proofs.Export.Joined
import CellExchange.Proofs.Export.Lines
import CellExchange.Proofs.Export.Naming
import CellExchange.Proofs.Export.Offsets
import CellExchange.Proofs.Export.Paging
import CellExchange.Proofs.Export.Publishing
import CellExchange.Proofs.Export.RoundTrip
import CellExchange.Proofs.Export.Selecting
import CellExchange.Proofs.Files
import CellExchange.Proofs.Grammar.Checks
import CellExchange.Proofs.Grammar.Decimal
import CellExchange.Proofs.Grammar.Fields
import CellExchange.Proofs.Grammar.Numeral
import CellExchange.Proofs.Grammar.Row
import CellExchange.Proofs.Gzip.Delivery
import CellExchange.Proofs.Gzip.Member
import CellExchange.Proofs.Gzip.Stored
import CellExchange.Proofs.Import.Account
import CellExchange.Proofs.Import.Batches
import CellExchange.Proofs.Import.Confined
import CellExchange.Proofs.Import.Data
import CellExchange.Proofs.Import.Failing
import CellExchange.Proofs.Import.Fetching
import CellExchange.Proofs.Import.Handing
import CellExchange.Proofs.Import.Header
import CellExchange.Proofs.Import.Interleaving
import CellExchange.Proofs.Import.Log
import CellExchange.Proofs.Import.Rerun
import CellExchange.Proofs.Import.Run
import CellExchange.Proofs.Import.Series
import CellExchange.Proofs.Import.Taking
import CellExchange.Proofs.Import.Written
import CellExchange.Proofs.Instant.Calendar
import CellExchange.Proofs.Instant.Stamp
import CellExchange.Proofs.Job
import CellExchange.Proofs.Numeral
import CellExchange.Proofs.Path
import CellExchange.Proofs.Provider.FileName
import CellExchange.Proofs.Provider.Request
import CellExchange.Proofs.Reading
import CellExchange.Proofs.Row.Checked
import CellExchange.Proofs.Row.Named
import CellExchange.Proofs.Row.Outcome
import CellExchange.Proofs.Row.Rearranged
import CellExchange.Proofs.Row.RoundTrip
import CellExchange.Proofs.Settings
import CellExchange.Proofs.Sql.Transaction
import CellExchange.Proofs.Sql.Wording
import CellExchange.Proofs.Store.Batched
import CellExchange.Proofs.Store.Collapse
import CellExchange.Proofs.Store.Identity
import CellExchange.Proofs.Store.LastCells
import CellExchange.Proofs.Store.Ledger
import CellExchange.Proofs.Store.PageLog
import CellExchange.Proofs.Store.Rows
import CellExchange.Proofs.Store.Sound
import CellExchange.Proofs.Store.Statements
import CellExchange.Proofs.Store.Upserting
import CellExchange.Proofs.Text.Percent
import CellExchange.Proofs.Text.Plain
import CellExchange.Provider.FileName
import CellExchange.Provider.Service
import CellExchange.Provider.Status
import CellExchange.Radio
import CellExchange.Row.Checking
import CellExchange.Row.Draft
import CellExchange.Row.Fault
import CellExchange.Row.Rendering
import CellExchange.Selection
import CellExchange.Settings
import CellExchange.Sql.Address
import CellExchange.Sql.Condition
import CellExchange.Sql.Migration
import CellExchange.Sql.Server
import CellExchange.Sql.Statement
import CellExchange.Sql.Value
import CellExchange.Store.Basic
import CellExchange.Store.Collapse
import CellExchange.Store.Database
import CellExchange.Store.Memory
import CellExchange.Store.Table
import CellExchange.Text.Alphanumeric
import CellExchange.Text.Blank
import CellExchange.Text.Percent
import CellExchange.Text.Quoted
import CellExchange.Text.Unprintable
import CellExchange.Text.ValidLength
import CellExchange.Toml.Document
import CellExchange.Toml.Node
import CellExchange.Toml.Reader
import CellExchange.Toml.Report
import CellExchange.Toml.Scalar
import CellExchange.Url
import CellExchange.Window
import CellExchange.Workspace
