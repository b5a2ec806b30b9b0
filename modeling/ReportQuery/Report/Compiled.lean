import ReportQuery.Report.Basic

/-!
# Compiled reports

A request that is valid becomes a compiled report: one clause for each part of the statement,
and an account of what the request asked for and the statement does not do. The statement is
assembled from the written parts; it is never run here.

Compiling reports what it leaves out as warnings, and the statement for debugging. What it
reports is a function of its result.
-/

namespace ReportQuery

/-! ### What is left out -/

/-- What kind of item a statement leaves out. -/
inductive DroppedKind where
  | skippedTable | duplicateTable | ignoredOrderBy | ignoredFilterLogic
deriving Repr, DecidableEq

instance : Vocabulary DroppedKind where
  all := [.skippedTable, .duplicateTable, .ignoredOrderBy, .ignoredFilterLogic]
  word
    | .skippedTable => "skipped_table"
    | .duplicateTable => "duplicate_table"
    | .ignoredOrderBy => "ignored_order_by"
    | .ignoredFilterLogic => "ignored_filter_logic"

/-- An item of a request that was accepted and not applied. -/
structure Dropped where
  kind : DroppedKind
  subject : String
  reason : String
deriving Repr, DecidableEq

namespace Dropped

/-- A table that is not joined. -/
def ofSkipped (s : SkippedTable) : Dropped where
  kind := match s.reason with
    | .duplicate => .duplicateTable
    | .unrelated _ => .skippedTable
  subject := s.table
  reason := s.reason.message

/-- An ordering by a column that is not shown. -/
def ofOrder (o : OrderEntry) : Dropped where
  kind := .ignoredOrderBy
  subject := o.column.getD ""
  reason := "column is not among the selected columns"

/-- A connective that is not honored; the filter itself is. -/
def ofFilter (f : Filter) : Dropped where
  kind := .ignoredFilterLogic
  subject := f.column
  reason := "filters are always combined with AND"

/-- Everything that a report asks for and its statement does not do: tables, then orderings, then
connectives, each in the order of the request. -/
def ofReport (r : Report) (plan : JoinPlan) : List Dropped :=
  plan.skipped.map ofSkipped ++
  (Sql.droppedOrder r.orderBy r.columns).map ofOrder ++
  (Sql.ignoredConnectives r.filters).map ofFilter

end Dropped

/-! ### Statements -/

/-- The written clauses of a statement without their keywords. An empty clause is not there. -/
structure QueryParts where
  select : String
  source : String
  filter : String := ""
  groupBy : String := ""
  having : String := ""
  orderBy : String := ""
deriving Repr, DecidableEq

namespace QueryParts

/-- The line of a clause that may be empty. -/
def line? (keyword body : String) : Option String :=
  if body = "" then none else some (keyword ++ " " ++ body)

/-- The lines of the statement. -/
def lines (p : QueryParts) : List String :=
  ["SELECT " ++ p.select, "FROM " ++ p.source] ++
    [line? "WHERE" p.filter, line? "GROUP BY" p.groupBy, line? "HAVING" p.having,
      line? "ORDER BY" p.orderBy].filterMap id

/-- The statement, with a semicolon at its end. -/
def sql (p : QueryParts) : String :=
  "\n".intercalate p.lines ++ ";"

end QueryParts

/-- The clauses of a report with its join plan and what was left out. -/
structure CompiledReport where
  select : Sql.SelectClause
  source : Sql.FromClause
  filter : Sql.WhereClause
  groupBy : Sql.GroupByClause
  having : Sql.HavingClause
  orderBy : Sql.OrderByClause
  plan : JoinPlan
  dropped : List Dropped
deriving Repr, DecidableEq

namespace CompiledReport

/-- The written clauses. -/
def parts (c : CompiledReport) : QueryParts where
  select := c.select.sql
  source := c.source.sql
  filter := if c.filter.isPresent then c.filter.sql else ""
  groupBy := if c.groupBy.isPresent then c.groupBy.sql else ""
  having := if c.having.isPresent then c.having.sql else ""
  orderBy := if c.orderBy.isPresent then c.orderBy.sql else ""

/-- The statement. -/
def sql (c : CompiledReport) : String :=
  c.parts.sql

/-- The items of one kind that were left out. -/
def droppedOf (c : CompiledReport) (kind : DroppedKind) : List Dropped :=
  c.dropped.filter (·.kind = kind)

/-- What compiling reports. -/
def log (c : CompiledReport) : List LogEntry :=
  c.plan.log ++
  c.dropped.map (fun d ↦ ⟨.warning, .compiler, "Report item dropped: " ++ word d.kind ++ " " ++
    d.subject ++ " (" ++ d.reason ++ ")"⟩) ++
  [⟨.debug, .compiler, "Compiled report query:\n" ++ c.sql⟩]

end CompiledReport

/-! ### Compiling -/

/-- Why a request cannot be compiled. -/
inductive CompileError where
  | invalid (violation : Violation)
  | noTable
deriving Repr, DecidableEq

/-- The wording of an error. -/
def CompileError.message : CompileError → String
  | .invalid violation => violation.message
  | .noTable => JoinPlan.noTableMessage

/-- What compiling needs besides the request. -/
structure Compiler where
  graph : Relation.Graph := .standard
  dateFormat : String := Sql.defaultDateFormat

namespace Compiler

/-- The compiled report of a flat report with a join plan. -/
def assemble (dateFormat : String) (r : Report) (plan : JoinPlan) : CompiledReport where
  select := .build r.columns r.aggregates
  source := .build plan
  filter := .build r.filters dateFormat
  groupBy := .build r.groupBy
  having := .build r.having
  orderBy := .build r.orderBy r.columns
  plan := plan
  dropped := Dropped.ofReport r plan

/-- Compiles a request. -/
def compile (c : Compiler) (r : Request) : Except CompileError CompiledReport := do
  (r.validate).mapError .invalid
  let report ← r.normalize.mapError .invalid
  match JoinPlan.resolve? c.graph report.joinType report.tables with
  | some plan => return assemble c.dateFormat report plan
  | none => .error .noTable

/-- The statement that a request compiles to. -/
def preview (c : Compiler) (r : Request) : Except CompileError String :=
  (c.compile r).map CompiledReport.sql

/-- Compiles a request, with the report of what was left out. -/
def compileLogged (c : Compiler) (r : Request) : Logged (Except CompileError CompiledReport) :=
  let result := c.compile r
  { value := result
    log := match result with
      | .ok compiled => compiled.log
      | .error _ => [] }

end Compiler

end ReportQuery
