import Analytics.Service.Config
import Analytics.Service.Http
import Analytics.Proofs.Sql.Quoting
import Analytics.Proofs.Sql.Template
import Analytics.Proofs.Sql.Numbering
import Analytics.Proofs.Sql.Sound
import Analytics.Proofs.Sql.Spelling
import Analytics.Proofs.Sql.Labels
import Analytics.Proofs.Query.Checks
import Analytics.Proofs.Sql.Placeholders
import Analytics.Proofs.Sql.Outlines
import Analytics.Proofs.Sql.Forms
import Analytics.Proofs.Query.Renaming
import Analytics.Proofs.Source.Alike
import Analytics.Proofs.Source.Renaming
import Analytics.Proofs.Sql.Names
import Analytics.Proofs.Source.Isolation
import Analytics.Proofs.Source.Operands
import Analytics.Proofs.Json.Members
import Analytics.Proofs.Number.Rounding
import Analytics.Proofs.Number.Size
import Analytics.Proofs.Number.Sums
import Analytics.Proofs.Series.Combinations
import Analytics.Proofs.Store.Order
import Analytics.Proofs.Store.Gather
import Analytics.Proofs.Series.Count
import Analytics.Proofs.Series.Groups
import Analytics.Proofs.Series.Titles
import Analytics.Proofs.Series.Columns
import Analytics.Proofs.Series.Tally
import Analytics.Proofs.Series.Answers
import Analytics.Proofs.Series.Values
import Analytics.Proofs.Series.Alone
import Analytics.Proofs.Store.Reads
import Analytics.Proofs.Store.Compiled
import Analytics.Proofs.Store.Repeats
import Analytics.Proofs.Store.Joined
import Analytics.Proofs.Source.Parameters
import Analytics.Proofs.Query.Buckets
import Analytics.Proofs.Source.Exchanged
import Analytics.Proofs.Series.Buckets
import Analytics.Proofs.Query.Dates
import Analytics.Proofs.Paging.Run
import Analytics.Proofs.Series.Copies
import Analytics.Proofs.Registry.Interleavings
import Analytics.Proofs.Series.Dense
import Analytics.Proofs.Series.Totals
import Analytics.Proofs.Group.Keys
import Analytics.Proofs.Service.Limits
import Analytics.Proofs.Series.Shapes
import Analytics.Proofs.Sql.Dialects
import Analytics.Series.Ledger
import Analytics.Proofs.Series.Points
import Analytics.Proofs.Series.Ledgers
import Analytics.Proofs.Text.Bytes
import Analytics.Proofs.Series.Determined
import Analytics.Proofs.Number.Proper
import Analytics.Proofs.Number.Whole
import Analytics.Proofs.Series.Unordered
import Analytics.Proofs.Series.Merging
import Analytics.Proofs.Text.Joined
import Analytics.Proofs.Series.Names
import Analytics.Proofs.Series.Custom
import Analytics.Proofs.Time.Setbacks
import Analytics.Proofs.Query.Shifts
import Analytics.Proofs.Store.Patterns
import Analytics.Proofs.Query.HalfOpen
import Analytics.Proofs.Query.LocalDates
import Analytics.Proofs.Query.DateFilters
import Analytics.Proofs.Store.Lists
import Analytics.Proofs.Source.Refusals
import Analytics.Proofs.Time.Partition
import Analytics.Proofs.Time.Printed
import Analytics.Proofs.Query.Normalized
import Analytics.Proofs.Json.Canonical
import Analytics.Proofs.Json.Records
import Analytics.Proofs.Request.Documents
import Analytics.Proofs.Text.Blanks
import Analytics.Proofs.Number.Nearest
import Analytics.Proofs.Number.Shortest
import Analytics.Proofs.Number.Texts
import Analytics.Proofs.Time.Marks
import Analytics.Proofs.Filter.Literals
import Analytics.Proofs.Group.Duplicates
