import DocQuery.Builder.Basic
import DocQuery.Builder.Terminal
import DocQuery.Calendar
import DocQuery.Connection.Basic
import DocQuery.Connection.Config
import DocQuery.Connection.Connector
import DocQuery.Connection.Error
import DocQuery.Connection.Metrics
import DocQuery.Connection.QueryLog
import DocQuery.Document
import DocQuery.Document.Row
import DocQuery.Json.Basic
import DocQuery.Json.Parser
import DocQuery.Number.Decimal128
import DocQuery.Number.Double
import DocQuery.Number.Numeral
import DocQuery.Number.Shortest
import DocQuery.Path
import DocQuery.Query.Basic
import DocQuery.Query.Like
import DocQuery.Query.Operator
import DocQuery.Regex.Basic
import DocQuery.Regex.Class
import DocQuery.Regex.Escape
import DocQuery.Regex.Parser
import DocQuery.Regex.Plan
import DocQuery.Regex.Property
import DocQuery.Regex.Room
import DocQuery.Regex.Search
import DocQuery.Statement.Basic
import DocQuery.Statement.Compile
import DocQuery.Statement.Error
import DocQuery.Statement.Execute
import DocQuery.Statement.Filter
import DocQuery.Statement.Request
import DocQuery.Store.Arithmetic
import DocQuery.Store.Basic
import DocQuery.Store.Call
import DocQuery.Store.DateFormat
import DocQuery.Store.Error
import DocQuery.Store.Expression
import DocQuery.Store.Filter
import DocQuery.Store.Pipeline
import DocQuery.Store.Update
import DocQuery.Text.Blank
import DocQuery.Text.Case
import DocQuery.Text.Hex
import DocQuery.Text.Quoted
import DocQuery.Text.Split
import DocQuery.Unicode.Age
import DocQuery.Unicode.CaseMapping
import DocQuery.Unicode.Category
import DocQuery.Unicode.CharSet
import DocQuery.Unicode.Property
import DocQuery.Unicode.Ranges
import DocQuery.Unicode.Script
import DocQuery.Unicode.ScriptExtension
import DocQuery.Unicode.Segment
import DocQuery.Unicode.Utf8
import DocQuery.Value
import DocQuery.Value.Display
import DocQuery.Value.Equality
import DocQuery.Value.ExtendedJson
import DocQuery.Value.Kind
import DocQuery.Value.Number
import DocQuery.Value.Order
import DocQuery.Proofs.Filters
import DocQuery.Proofs.ClauseLists
import DocQuery.Proofs.Dispatch
import DocQuery.Proofs.Requests
import DocQuery.Proofs.Scripts
import DocQuery.Proofs.DryRuns
import DocQuery.Proofs.Refusals
import DocQuery.Proofs.Equality
import DocQuery.Proofs.Failures
import DocQuery.Proofs.SameValues
import DocQuery.Proofs.Updates
import DocQuery.Proofs.Identifiers
import DocQuery.Proofs.Pipelines
import DocQuery.Proofs.Collections
import DocQuery.Proofs.Reads
import DocQuery.Proofs.ById
import DocQuery.Proofs.Stages
import DocQuery.Proofs.Selects
import DocQuery.Proofs.Pages
import DocQuery.Proofs.Counts
import DocQuery.Proofs.Columns
import DocQuery.Proofs.Deletes
import DocQuery.Proofs.Patterns
import DocQuery.Proofs.Progress
import DocQuery.Proofs.Insertions
import DocQuery.Proofs.Accounts
import DocQuery.Proofs.Separation
import DocQuery.Proofs.Rounding
import DocQuery.Proofs.Partitions
import DocQuery.Proofs.Integers
import DocQuery.Proofs.Ranking
import DocQuery.Proofs.Sharing
import DocQuery.Proofs.EqualValues
import DocQuery.Proofs.UniqueMatches
import DocQuery.Proofs.Expressions
import DocQuery.Proofs.DateParts
import DocQuery.Proofs.Overflows
import DocQuery.Proofs.ExpressionOverflows
import DocQuery.Proofs.FilterOverflows
import DocQuery.Proofs.Locks
import DocQuery.Proofs.Sorting
import DocQuery.Proofs.Complements
import DocQuery.Proofs.Writing
import DocQuery.Proofs.Increments
import DocQuery.Proofs.Searches
import DocQuery.Proofs.Folding
import DocQuery.Proofs.LikeInstances
import DocQuery.Proofs.FieldOrder
import DocQuery.Proofs.Changes
import DocQuery.Proofs.UpdateOrder
import DocQuery.Proofs.BulkWrites
import DocQuery.Proofs.StoreRuns
import DocQuery.Proofs.Ranges
import DocQuery.Proofs.OrderChains
import DocQuery.Proofs.Memberships
import DocQuery.Proofs.Sums
import DocQuery.Proofs.MixedSums
import DocQuery.Proofs.WellFormedValues
import DocQuery.Proofs.Grouping
import DocQuery.Proofs.Extremes
import DocQuery.Proofs.ColumnCounts
import DocQuery.Proofs.Inclusions
import DocQuery.Proofs.ShownFields
import DocQuery.Proofs.Exclusions
import DocQuery.Proofs.ArrayFields
import DocQuery.Proofs.Pulls
import DocQuery.Proofs.Pushes
import DocQuery.Proofs.Replays
import DocQuery.Proofs.ArrayRuns
import DocQuery.Proofs.ReadTargets
import DocQuery.Proofs.UnknownOperators
import DocQuery.Proofs.Days
import DocQuery.Proofs.DateTexts
import DocQuery.Proofs.DelimitedPatterns
import DocQuery.Proofs.Bounds
import DocQuery.Proofs.EqualityClasses
import DocQuery.Proofs.ComputedFields
import DocQuery.Proofs.PathEdits
