import LogQuery.Text.Blank
import LogQuery.Text.Split
import LogQuery.Text.Word
import LogQuery.Text.Lowercase
import LogQuery.Text.Width
import LogQuery.Text.Cluster
import LogQuery.Decimal.Layout
import LogQuery.Decimal.Reader
import LogQuery.Json.Printer
import LogQuery.Json.Parser
import LogQuery.Store
import LogQuery.Condition.Selection
import LogQuery.Condition.Parser
import LogQuery.Query
import LogQuery.Report.Reporter
import LogQuery.Dataset
import LogQuery.Store.Files
import LogQuery.Shell.Session
import LogQuery.Api.Route
import LogQuery.SocketAddress
import LogQuery.Main
import LogQuery.Proofs.SelectionOrder
import LogQuery.Proofs.Grouping
import LogQuery.Proofs.Occurrence
import LogQuery.Proofs.ConditionText
import LogQuery.Proofs.ConditionReading
import LogQuery.Proofs.ScriptLayout
import LogQuery.Proofs.StageReading
import LogQuery.Proofs.ByteOrder
import LogQuery.Proofs.JsonReading
import LogQuery.Proofs.JsonValue
import LogQuery.Proofs.StoreFiles
import LogQuery.Proofs.MessageReading
import LogQuery.Proofs.Challenges
import LogQuery.Proofs.EarlyProjection
import LogQuery.Proofs.SuccessiveFilters
import LogQuery.Proofs.AppendedStages
import LogQuery.Proofs.HistoryFile
import LogQuery.Proofs.SessionHistory
import LogQuery.Proofs.RowOrigin
import LogQuery.Proofs.ColumnNames
import LogQuery.Proofs.QueryErrors
import LogQuery.Proofs.SummaryColumns
import LogQuery.Proofs.SavedNames
import LogQuery.Proofs.HistoryBound
import LogQuery.Proofs.Registration
import LogQuery.Proofs.DatasetInvariants
import LogQuery.Proofs.ConditionLevels
import LogQuery.Proofs.SortedRows
import LogQuery.Proofs.SortedFilters
import LogQuery.Proofs.RepeatedStages
import LogQuery.Proofs.DistinctRows
import LogQuery.Proofs.TimestampReading
import LogQuery.Proofs.WholeNumbers
import LogQuery.Proofs.SigmaContext
import LogQuery.Proofs.VerbSpellings
import LogQuery.Proofs.TypedQueries
import LogQuery.Proofs.NestedText
import LogQuery.Proofs.Numerals
import LogQuery.Proofs.PrintedNumbers
import LogQuery.Proofs.UniqueSegments
