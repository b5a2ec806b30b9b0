import ReportQuery.Report.Validation
import ReportQuery.Sql.Clause

/-!
# Reports

A report is a request made flat: all shorthand is spelled out, incomplete entries are gone, and
the grouping is decided. A report that aggregates is grouped by its plain columns unless the
request says how to group; an explicit grouping without any name means that there is no
grouping when it is a list, and that none was asked for when it is a text.
-/

namespace ReportQuery

/-- A flat report. -/
structure Report where
  tables : List TableSource
  joinType : JoinType
  columns : List String
  aggregates : List Aggregate
  filters : List Filter
  having : Option Having
  orderBy : List OrderEntry
  groupBy : Option (List String)
deriving DecidableEq

namespace Request

/-- The columns that a request names, without empty names. -/
def selectedColumns (r : Request) : List String :=
  (r.columns.getD []).filterMap fun c ↦ c.column?.filter (· ≠ "")

/-- The complete aggregates of a request. -/
def aggregates (r : Request) : List Aggregate :=
  (r.aggregations.getD []).filterMap Aggregation.aggregate?

/-- The grouping that a request asks for, if it does. -/
def explicitGroupBy (r : Request) : Option (List String) :=
  match r.groupBy with
  | none => none
  | some (.columns list) => some (Grouping.columns list).names
  | some (.text s) =>
    match (Grouping.text s).names with
    | [] => none
    | names => some names

/-- The flat report of a request, which needs a table. -/
def normalize (r : Request) : Except Violation Report :=
  match r.tables.getD [] with
  | [] => .error .noTables
  | ts => .ok {
      tables := ts.map TableEntry.toSource
      joinType := r.joinType
      columns := r.selectedColumns
      aggregates := r.aggregates
      filters := r.filters.getD []
      having := r.having
      orderBy := r.orderBy.getD []
      groupBy := Sql.resolveGroupBy r.explicitGroupBy r.selectedColumns (!r.aggregates.isEmpty) }

end Request

end ReportQuery
