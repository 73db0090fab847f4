import ClusterLog.Appender.Basic
import ClusterLog.Appender.Discovery
import ClusterLog.Appender.Settings
import ClusterLog.Calendar.Date
import ClusterLog.Calendar.DateTime
import ClusterLog.Calendar.Format
import ClusterLog.Calendar.Stamp
import ClusterLog.Command.Arguments
import ClusterLog.Command.Commands
import ClusterLog.Command.Form
import ClusterLog.Command.Parameter
import ClusterLog.Command.Run
import ClusterLog.Compression.Bits
import ClusterLog.Compression.Checksum
import ClusterLog.Compression.Gzip
import ClusterLog.Compression.Huffman
import ClusterLog.Compression.Inflate
import ClusterLog.Configuration
import ClusterLog.Diagnostics.DroppedMessages
import ClusterLog.Diagnostics.GcPause
import ClusterLog.Diagnostics.Reading
import ClusterLog.Diagnostics.Tally
import ClusterLog.Digest.Sha256
import ClusterLog.Entry.Basic
import ClusterLog.Entry.Reading
import ClusterLog.Entry.Record
import ClusterLog.Failure
import ClusterLog.Files.Home
import ClusterLog.Files.Path
import ClusterLog.Files.Tree
import ClusterLog.Index.Document
import ClusterLog.Index.File
import ClusterLog.Index.Image
import ClusterLog.Index.Search
import ClusterLog.Index.Statistics
import ClusterLog.Index.Store
import ClusterLog.Index.Writing
import ClusterLog.Ingest.Cluster
import ClusterLog.Ingest.Node
import ClusterLog.Ingest.Summary
import ClusterLog.Layout.Grammar
import ClusterLog.Layout.Piece
import ClusterLog.Layout.Token
import ClusterLog.Main
import ClusterLog.Pattern.Basic
import ClusterLog.Pattern.Escape
import ClusterLog.Pattern.Reader
import ClusterLog.Proofs.Appender.Discovery
import ClusterLog.Proofs.Appender.NamePattern
import ClusterLog.Proofs.Appender.Selection
import ClusterLog.Proofs.Calendar.Codec
import ClusterLog.Proofs.Calendar.Days
import ClusterLog.Proofs.Calendar.Letters
import ClusterLog.Proofs.Calendar.Lookback
import ClusterLog.Proofs.Calendar.Order
import ClusterLog.Proofs.Calendar.Spelling
import ClusterLog.Proofs.Calendar.Stamp
import ClusterLog.Proofs.Calendar.Written
import ClusterLog.Proofs.Compression.Damage
import ClusterLog.Proofs.Computation
import ClusterLog.Proofs.Diagnostics.DroppedReports
import ClusterLog.Proofs.Diagnostics.DroppedTotals
import ClusterLog.Proofs.Diagnostics.GcDays
import ClusterLog.Proofs.Diagnostics.MessagePatterns
import ClusterLog.Proofs.Diagnostics.SummaryLine
import ClusterLog.Proofs.Diagnostics.Tally
import ClusterLog.Proofs.Entry.KeywordEntry
import ClusterLog.Proofs.Entry.KeywordPattern
import ClusterLog.Proofs.Entry.LayoutRecord
import ClusterLog.Proofs.Entry.MarkedLayout
import ClusterLog.Proofs.Entry.Partition
import ClusterLog.Proofs.Entry.Records
import ClusterLog.Proofs.Entry.StockRecord
import ClusterLog.Proofs.Entry.StockText
import ClusterLog.Proofs.Entry.Timestamps
import ClusterLog.Proofs.Entry.WrittenDates
import ClusterLog.Proofs.Failure
import ClusterLog.Proofs.Files.EarlierRuns
import ClusterLog.Proofs.Files.Listing
import ClusterLog.Proofs.Files.Location
import ClusterLog.Proofs.Files.Soundness
import ClusterLog.Proofs.Files.Walks
import ClusterLog.Proofs.Grouping
import ClusterLog.Proofs.Index.Batching
import ClusterLog.Proofs.Index.Classification
import ClusterLog.Proofs.Index.ExactHits
import ClusterLog.Proofs.Index.History
import ClusterLog.Proofs.Index.Hits
import ClusterLog.Proofs.Index.OwnMessages
import ClusterLog.Proofs.Index.Places
import ClusterLog.Proofs.Index.PlainSearch
import ClusterLog.Proofs.Index.Refusals
import ClusterLog.Proofs.Index.Statistics
import ClusterLog.Proofs.Ingest.Accounting
import ClusterLog.Proofs.Ingest.Brackets
import ClusterLog.Proofs.Ingest.Duplicates
import ClusterLog.Proofs.Ingest.Failures
import ClusterLog.Proofs.Ingest.Fingerprints
import ClusterLog.Proofs.Ingest.ProcessingOrder
import ClusterLog.Proofs.Ingest.Ranges
import ClusterLog.Proofs.Ingest.Readings
import ClusterLog.Proofs.Ingest.SavedRanges
import ClusterLog.Proofs.Layout.Compilation
import ClusterLog.Proofs.Layout.FieldLayout
import ClusterLog.Proofs.Layout.Pieces
import ClusterLog.Proofs.Layout.StockGrammar
import ClusterLog.Proofs.Layout.Tokens
import ClusterLog.Proofs.Pattern.Completeness
import ClusterLog.Proofs.Pattern.Matching
import ClusterLog.Proofs.Pattern.Reading
import ClusterLog.Proofs.Pattern.Searching
import ClusterLog.Proofs.Pattern.Source
import ClusterLog.Proofs.Query.Exclusion
import ClusterLog.Proofs.Query.Faults
import ClusterLog.Proofs.Query.FilteredTexts
import ClusterLog.Proofs.Query.Lexemes
import ClusterLog.Proofs.Query.PlainScope
import ClusterLog.Proofs.Query.QuotedText
import ClusterLog.Proofs.Query.Reading
import ClusterLog.Proofs.Query.Recut
import ClusterLog.Proofs.Query.Rescope
import ClusterLog.Proofs.Query.Scope
import ClusterLog.Proofs.Query.ScopedMeaning
import ClusterLog.Proofs.Query.Shelter
import ClusterLog.Proofs.Query.Spelling
import ClusterLog.Proofs.Query.Steps
import ClusterLog.Proofs.Query.Tokens
import ClusterLog.Proofs.Query.Written
import ClusterLog.Proofs.Severity
import ClusterLog.Proofs.StableOrder
import ClusterLog.Proofs.Term.Separators
import ClusterLog.Proofs.Text.Class
import ClusterLog.Proofs.Text.Decimal
import ClusterLog.Proofs.Text.Find
import ClusterLog.Proofs.Text.Lines
import ClusterLog.Proofs.Text.Numeral
import ClusterLog.Proofs.Text.Order
import ClusterLog.Proofs.Text.Runs
import ClusterLog.Proofs.Text.Split
import ClusterLog.Proofs.Text.Trim
import ClusterLog.Proofs.Text.Utf8
import ClusterLog.Proofs.Tools.CompleteReports
import ClusterLog.Proofs.Tools.Confinement
import ClusterLog.Proofs.Tools.DroppedMessages
import ClusterLog.Proofs.Tools.GcPauses
import ClusterLog.Proofs.Tools.Ingestion
import ClusterLog.Proofs.Tools.Lookback
import ClusterLog.Proofs.Tools.RefusedIngestion
import ClusterLog.Proofs.Tools.Search
import ClusterLog.Proofs.Tools.WiderWindow
import ClusterLog.Proofs.Window
import ClusterLog.Proofs.Workspace.Rebuild
import ClusterLog.Proofs.Workspace.Running
import ClusterLog.Proofs.Workspace.Sessions
import ClusterLog.Proofs.Workspace.WriterSession
import ClusterLog.Query.Expression
import ClusterLog.Query.Fault
import ClusterLog.Query.Grammar
import ClusterLog.Query.Lexeme
import ClusterLog.Query.Request
import ClusterLog.Query.Scope
import ClusterLog.Query.Token
import ClusterLog.Severity
import ClusterLog.Term.Basic
import ClusterLog.Term.FoldTable
import ClusterLog.Term.SeparatorTable
import ClusterLog.Text.Case
import ClusterLog.Text.CaseRun
import ClusterLog.Text.Class
import ClusterLog.Text.DigitTable
import ClusterLog.Text.Find
import ClusterLog.Text.Integer
import ClusterLog.Text.Lines
import ClusterLog.Text.Order
import ClusterLog.Text.Quoted
import ClusterLog.Text.Trim
import ClusterLog.Text.UnprintableTable
import ClusterLog.Text.UpperTable
import ClusterLog.Text.Utf8
import ClusterLog.Text.WordTable
import ClusterLog.Tools.Confinement
import ClusterLog.Tools.Ingestion
import ClusterLog.Tools.Limits
import ClusterLog.Tools.Resource
import ClusterLog.Tools.Search
import ClusterLog.Window
import ClusterLog.Workspace
import ClusterLog.Xml.Basic
import ClusterLog.Xml.ContentModel
import ClusterLog.Xml.Declarations
import ClusterLog.Xml.DocumentType
import ClusterLog.Xml.NameTable
import ClusterLog.Xml.Reader
import ClusterLog.Xml.Scan
import ClusterLog.Xml.Value
