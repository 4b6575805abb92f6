import TableQuery.Calendar.Bucket
import TableQuery.Calendar.Date
import TableQuery.Calendar.Instant
import TableQuery.Calendar.Scan
import TableQuery.Config
import TableQuery.Csv.Columns
import TableQuery.Csv.Reader
import TableQuery.Csv.Table
import TableQuery.Decimal.FloatPair
import TableQuery.Decimal.Layout
import TableQuery.Decimal.Reading
import TableQuery.Decimal.Shortest
import TableQuery.Execution.Diagnosis
import TableQuery.Execution.Path
import TableQuery.Execution.Plan
import TableQuery.Execution.Run
import TableQuery.Execution.Source
import TableQuery.Failure
import TableQuery.Files
import TableQuery.Http.Api
import TableQuery.Http.Body
import TableQuery.Http.MediaType
import TableQuery.Http.Request
import TableQuery.Json.Basic
import TableQuery.Json.Decoder
import TableQuery.Json.Draft
import TableQuery.Json.Fault
import TableQuery.Json.Numeral
import TableQuery.Json.Printer
import TableQuery.Json.Record
import TableQuery.Json.Rejection
import TableQuery.Json.Token
import TableQuery.Proofs.Calendar.DateTexts
import TableQuery.Proofs.Calendar.DayCount
import TableQuery.Proofs.Calendar.Digits
import TableQuery.Proofs.Calendar.Periods
import TableQuery.Proofs.Calendar.StampOrder
import TableQuery.Proofs.Calendar.Stamps
import TableQuery.Proofs.Csv.DistinctNames
import TableQuery.Proofs.Csv.KeptCells
import TableQuery.Proofs.Csv.LoadedTables
import TableQuery.Proofs.Csv.NarrowestTypes
import TableQuery.Proofs.Csv.VisibleTables
import TableQuery.Proofs.Decimal.DigitOrder
import TableQuery.Proofs.Decimal.IntegerTexts
import TableQuery.Proofs.Execution.AvailableNames
import TableQuery.Proofs.Execution.Conversation
import TableQuery.Proofs.Execution.Explanation
import TableQuery.Proofs.Execution.Limits
import TableQuery.Proofs.Execution.NativeTotals
import TableQuery.Proofs.Execution.ReportedFailures
import TableQuery.Proofs.Execution.ResultShape
import TableQuery.Proofs.Json.RecordFields
import TableQuery.Proofs.Json.Rereading
import TableQuery.Proofs.Lists.Leading
import TableQuery.Proofs.Query.FieldNames
import TableQuery.Proofs.Query.OutputColumns
import TableQuery.Proofs.Query.RoundTrip
import TableQuery.Proofs.Rows.AggregateNulls
import TableQuery.Proofs.Rows.BucketColumns
import TableQuery.Proofs.Rows.CellNumbers
import TableQuery.Proofs.Rows.CellOrder
import TableQuery.Proofs.Rows.DateBuckets
import TableQuery.Proofs.Rows.DegenerateFilters
import TableQuery.Proofs.Rows.ExactArithmetic
import TableQuery.Proofs.Rows.ExtendedFloats
import TableQuery.Proofs.Rows.ExtremeCells
import TableQuery.Proofs.Rows.Extremes
import TableQuery.Proofs.Rows.FloatIntegers
import TableQuery.Proofs.Rows.FloatOrder
import TableQuery.Proofs.Rows.FloatRounding
import TableQuery.Proofs.Rows.FloatSort
import TableQuery.Proofs.Rows.FloatValues
import TableQuery.Proofs.Rows.Fractions
import TableQuery.Proofs.Rows.GroupKeys
import TableQuery.Proofs.Rows.GroupRows
import TableQuery.Proofs.Rows.Groups
import TableQuery.Proofs.Rows.HavingTruth
import TableQuery.Proofs.Rows.IndependentWindows
import TableQuery.Proofs.Rows.IntegerOrder
import TableQuery.Proofs.Rows.IntegerSums
import TableQuery.Proofs.Rows.LostPages
import TableQuery.Proofs.Rows.LostWeeks
import TableQuery.Proofs.Rows.NearestIntegers
import TableQuery.Proofs.Rows.NearestValues
import TableQuery.Proofs.Rows.NumberForms
import TableQuery.Proofs.Rows.Partitions
import TableQuery.Proofs.Rows.Percentiles
import TableQuery.Proofs.Rows.Rankings
import TableQuery.Proofs.Rows.RawColumns
import TableQuery.Proofs.Rows.RawFetch
import TableQuery.Proofs.Rows.ReadNumbers
import TableQuery.Proofs.Rows.ReorderedRows
import TableQuery.Proofs.Rows.RoundedFloats
import TableQuery.Proofs.Rows.RoundedPercentiles
import TableQuery.Proofs.Rows.RowCells
import TableQuery.Proofs.Rows.RowOrder
import TableQuery.Proofs.Rows.RunningWindows
import TableQuery.Proofs.Rows.ShiftedRows
import TableQuery.Proofs.Rows.SingleItems
import TableQuery.Proofs.Rows.WholeNumbers
import TableQuery.Proofs.Rows.WindowCells
import TableQuery.Proofs.Service.Connections
import TableQuery.Proofs.Service.DefinitionMap
import TableQuery.Proofs.Service.DeletedSources
import TableQuery.Proofs.Service.Demands
import TableQuery.Proofs.Service.Interleaving
import TableQuery.Proofs.Service.NewestFirst
import TableQuery.Proofs.Service.SharedConnections
import TableQuery.Proofs.Service.UsableSources
import TableQuery.Proofs.Sorting.Merging
import TableQuery.Proofs.Sorting.Parting
import TableQuery.Proofs.Sorting.Placing
import TableQuery.Proofs.Sorting.Runs
import TableQuery.Proofs.Sorting.ShortLists
import TableQuery.Proofs.Sql.Literals
import TableQuery.Proofs.Sql.Names
import TableQuery.Proofs.Sql.NativeForms
import TableQuery.Proofs.Sql.Predicates
import TableQuery.Proofs.Sql.QuotedText
import TableQuery.Proofs.Sql.References
import TableQuery.Proofs.Sql.SelectLists
import TableQuery.Proofs.Sql.SelectedColumns
import TableQuery.Proofs.Sql.WindowedText
import TableQuery.Proofs.Store.WholeTables
import TableQuery.Proofs.Text.ByteOrder
import TableQuery.Proofs.Text.Edits
import TableQuery.Proofs.Text.LoweredTexts
import TableQuery.Proofs.Text.NearestNames
import TableQuery.Proofs.Text.ReadBytes
import TableQuery.Proofs.Text.Searches
import TableQuery.Proofs.Validation.Acceptance
import TableQuery.Proofs.Validation.OwnNames
import TableQuery.Proofs.Validation.SourceColumns
import TableQuery.Proofs.Wire.IntegerColumns
import TableQuery.Proofs.Wire.NumericValues
import TableQuery.Query.Basic
import TableQuery.Query.Decoding
import TableQuery.Query.Encoding
import TableQuery.Query.Names
import TableQuery.Remote.MySql
import TableQuery.Remote.Postgres
import TableQuery.Rows.Aggregate
import TableQuery.Rows.Arithmetic
import TableQuery.Rows.Cell
import TableQuery.Rows.Group
import TableQuery.Rows.Having
import TableQuery.Rows.Interpretation
import TableQuery.Rows.Row
import TableQuery.Rows.Window
import TableQuery.Schema.Basic
import TableQuery.Schema.Json
import TableQuery.Service.Basic
import TableQuery.Service.Registry
import TableQuery.Sorting.Long
import TableQuery.Sorting.Short
import TableQuery.Sources.Definition
import TableQuery.Sources.Opening
import TableQuery.Sources.Server
import TableQuery.Sql.Compilation
import TableQuery.Sql.Dialect
import TableQuery.Sql.Expr
import TableQuery.Sql.Quoting
import TableQuery.Sql.Statement
import TableQuery.Store.Database
import TableQuery.Store.Declaration
import TableQuery.Store.DeclaredType
import TableQuery.Store.Naming
import TableQuery.Store.Real
import TableQuery.Store.Statement
import TableQuery.Store.Value
import TableQuery.Text.Blank
import TableQuery.Text.CanonicalPairs
import TableQuery.Text.CodePoints
import TableQuery.Text.CombiningClass
import TableQuery.Text.Composition
import TableQuery.Text.Distance
import TableQuery.Text.Flow
import TableQuery.Text.Joining
import TableQuery.Text.Lowercase
import TableQuery.Text.Marks
import TableQuery.Text.Ranges
import TableQuery.Text.Split
import TableQuery.Text.Utf8
import TableQuery.Url.Address
import TableQuery.Url.Basic
import TableQuery.Url.DomainTable
import TableQuery.Url.Encoding
import TableQuery.Url.Host
import TableQuery.Url.Label
import TableQuery.Url.Path
import TableQuery.Url.Punycode
import TableQuery.Url.Reader
import TableQuery.Validation.Error
import TableQuery.Validation.Query
import TableQuery.Validation.Scope
import TableQuery.Wire.MySql
import TableQuery.Wire.Numeric
