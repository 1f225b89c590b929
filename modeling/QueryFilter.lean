import QueryFilter.Json.Read
import QueryFilter.Json.Write
import QueryFilter.Proofs.Filter.Grammar
import QueryFilter.Proofs.Filter.Joining
import QueryFilter.Proofs.Filter.ReadBack
import QueryFilter.Proofs.Filter.RoundTrip
import QueryFilter.Proofs.Joined.Answered
import QueryFilter.Proofs.Joined.Conversation
import QueryFilter.Proofs.Joined.GroupBy
import QueryFilter.Proofs.Joined.Grouping
import QueryFilter.Proofs.Joined.PageOrder
import QueryFilter.Proofs.Joined.Partition
import QueryFilter.Proofs.Joined.Planners
import QueryFilter.Proofs.Joined.Slice
import QueryFilter.Proofs.Joined.Table
import QueryFilter.Proofs.Number.Decimals
import QueryFilter.Proofs.Number.Finite
import QueryFilter.Proofs.Number.Mantissa
import QueryFilter.Proofs.Number.Rounding
import QueryFilter.Proofs.Paging.Bounds
import QueryFilter.Proofs.Schema.Accepted
import QueryFilter.Proofs.Schema.Built
import QueryFilter.Proofs.Schema.DecimalKind
import QueryFilter.Proofs.Schema.Kinds
import QueryFilter.Proofs.Schema.Rules
import QueryFilter.Proofs.Schema.WriteOnce
import QueryFilter.Proofs.Service.Columns
import QueryFilter.Proofs.Service.Compiles
import QueryFilter.Proofs.Service.Report
import QueryFilter.Proofs.Sql.Assembly
import QueryFilter.Proofs.Sql.Conditions
import QueryFilter.Proofs.Sql.Counted
import QueryFilter.Proofs.Sql.FreshNames
import QueryFilter.Proofs.Sql.Like
import QueryFilter.Proofs.Sql.Nesting
import QueryFilter.Proofs.Sql.Neutral
import QueryFilter.Proofs.Sql.NoInjection
import QueryFilter.Proofs.Sql.Rerendering
import QueryFilter.Proofs.Sql.Template
import QueryFilter.Service
import QueryFilter.Proofs.Paging.Walk
import QueryFilter.Proofs.Sort.Grammar
import QueryFilter.Proofs.Schema.SnakeCase
import QueryFilter.Proofs.Filter.Separators
import QueryFilter.Proofs.Sql.InsertionOrder
import QueryFilter.Proofs.Sql.QuotedNames
