import FilterSql.Derive.Code
import FilterSql.Derive.Instance
import FilterSql.Json.Value
import FilterSql.Options
import FilterSql.Record.Compiled
import FilterSql.Replay
import FilterSql.Proofs.Select.CountQuery
import FilterSql.Proofs.Condition.Run
import FilterSql.Proofs.Statement.Placeholders
import FilterSql.Proofs.Record.Calls
import FilterSql.Proofs.Record.Invariant
import FilterSql.Proofs.Select.Arguments
import FilterSql.Proofs.Record.Arguments
import FilterSql.Proofs.Condition.Shape
import FilterSql.Proofs.Select.Shape
import FilterSql.Proofs.Record.DataIndependence
import FilterSql.Proofs.Record.IssueIndependence
import FilterSql.Proofs.Directive.Settings
import FilterSql.Proofs.Record.JoinClause
import FilterSql.Proofs.Text.LetterCase
import FilterSql.Proofs.Condition.Merge
import FilterSql.Proofs.Record.Composition
import FilterSql.Proofs.Record.FieldConditions
import FilterSql.Proofs.Record.JoinIsolation
import FilterSql.Proofs.Record.Modes
import FilterSql.Proofs.Record.ZeroRecords
import FilterSql.Proofs.Select.Builders
import FilterSql.Proofs.Record.PagingTexts
import FilterSql.Proofs.Statement.SinglePlaceholders
import FilterSql.Proofs.Record.Comparisons
import FilterSql.Proofs.Record.NestedJoins
import FilterSql.Proofs.Record.DriverSpelling
import FilterSql.Proofs.Derive.Classification
import FilterSql.Proofs.Derive.DerivedRecords
import FilterSql.Proofs.Condition.Isolation
import FilterSql.Proofs.Record.Restructuring
import FilterSql.Proofs.Text.Trimming
import FilterSql.Proofs.Directive.Writing
import FilterSql.Proofs.Json.Quoted
import FilterSql.Proofs.Json.Integers
import FilterSql.Proofs.Json.Documents
import FilterSql.Proofs.Json.Values
import FilterSql.Proofs.Directive.Overlay
import FilterSql.Proofs.Directive.Omissions
import FilterSql.Proofs.Number.Decimal
import FilterSql.Proofs.Paging.Resolution
import FilterSql.Proofs.Paging.Coverage
import FilterSql.Proofs.Text.Wildcards
import FilterSql.Proofs.Record.Patterns
import FilterSql.Proofs.Record.DetachedScopes
import FilterSql.Proofs.Select.Narrowing
import FilterSql.Proofs.Select.Alignment
import FilterSql.Proofs.Select.EmptyTrees
import FilterSql.Proofs.Derive.Acceptance
import FilterSql.Proofs.Text.SnakeCase
import FilterSql.Proofs.Derive.DefaultColumns
