import ReportQuery.Request.Basic
import ReportQuery.Sql.Name

/-!
# Validation

A request is valid when everything that is embedded into the statement as a name is a plain
name, and every comparison fits its value. Each rule yields the violations that it finds; the
rules run over the tables, columns, aggregations, filters, group conditions, orderings and
groupings in this order, and the first violation is the one that is reported.
-/

namespace ReportQuery

open Sql

/-- Where a column name is used. -/
inductive ColumnRole where
  | joinSide (table : String)
  | selected
  | aggregated
  | filtered
  | filterValue (column : String)
  | ordering
  | grouping
deriving Repr, DecidableEq

/-- The wording of a role. -/
def ColumnRole.message : ColumnRole → String
  | .joinSide table => "ON condition of '" ++ table ++ "'"
  | .selected => "selected column"
  | .aggregated => "aggregated column"
  | .filtered => "filter column"
  | .filterValue column => "value of filter on '" ++ column ++ "'"
  | .ordering => "ORDER BY column"
  | .grouping => "GROUP BY column"

/-- A rule that a request breaks. -/
inductive Violation where
  | noTables
  | invalidTable (name : String)
  | invalidColumn (role : ColumnRole) (name : String)
  | columnForMembership (column : String)
  | listForComparison (comparison : Comparison) (column : String)
  | emptyMembership (column : String)
  | groupShape (aggregation : String)
  | groupFunction (word : String)
  | groupComparison (comparison : Comparison)
deriving Repr, DecidableEq

/-- The wording of a violation. -/
def Violation.message : Violation → String
  | .noTables => "At least one table must be provided in 'tables'"
  | .invalidTable name => "Invalid table name '" ++ name ++ "'"
  | .invalidColumn role name => "Invalid " ++ role.message ++ " '" ++ name ++ "'"
  | .columnForMembership column =>
    "IN operator for '" ++ column ++ "' requires literal values, not a column"
  | .listForComparison comparison column =>
    "Operator '" ++ word comparison ++ "' for '" ++ column ++ "' does not accept a list of values"
  | .emptyMembership column => "IN operator for '" ++ column ++ "' requires at least one value"
  | .groupShape aggregation =>
    "HAVING aggregation '" ++ aggregation ++ "' must look like FUNC(column)"
  | .groupFunction w => "Unsupported aggregate function in HAVING: '" ++ w ++ "'"
  | .groupComparison comparison => "Operator '" ++ word comparison ++ "' not allowed in HAVING"

/-! ### Rules -/

/-- The violations of a rule that holds or not. -/
def unlessHolds (holds : Bool) (v : Violation) : List Violation :=
  if holds then [] else [v]

/-- A column name has to be acceptable. -/
def checkColumn (role : ColumnRole) (name : String) : List Violation :=
  unlessHolds (acceptsColumn name) (.invalidColumn role name)

/-- A column name that may be empty. -/
def checkOptionalColumn (role : ColumnRole) (name : Option String) : List Violation :=
  match name with
  | some c => if c = "" then [] else checkColumn role c
  | none => []

/-- The name of a table, then the sides of its own ON condition. -/
def TableSource.violations (t : TableSource) : List Violation :=
  unlessHolds (acceptsTable t.name) (.invalidTable t.name) ++
    match t.explicitSides? with
    | some (left, right) =>
      checkColumn (.joinSide t.name) left ++ checkColumn (.joinSide t.name) right
    | none => []

/-- A tagged column has to be acceptable and is no list; a list fits membership only and is not
empty there. -/
def Filter.valueViolations (f : Filter) : List Violation :=
  match f.value with
  | .column table name =>
    checkColumn (.filterValue f.column) (table ++ "." ++ name) ++
      unlessHolds (f.comparison ≠ .among) (.columnForMembership f.column)
  | .list items =>
    unlessHolds (f.comparison = .among) (.listForComparison f.comparison f.column) ++
      unlessHolds (!items.isEmpty) (.emptyMembership f.column)
  | _ => []

/-- The column of a filter, then its value. -/
def Filter.violations (f : Filter) : List Violation :=
  checkColumn .filtered f.column ++ f.valueViolations

/-- The comparison makes sense for an aggregate. -/
def Comparison.fitsAggregate : Comparison → Bool
  | .like | .notLike | .among => false
  | _ => true

/-- The aggregate of a group condition has a supported form, and its comparison fits. -/
def GroupCondition.violations (c : GroupCondition) : List Violation :=
  match aggregateParts? c.aggregation.toList with
  | none => [.groupShape c.aggregation]
  | some (w, _) =>
    let known : Option AggregateFunction := Vocabulary.ofWord? (String.ofList (w.map Char.toUpper))
    unlessHolds known.isSome (.groupFunction (String.ofList w)) ++
      unlessHolds c.comparison.fitsAggregate (.groupComparison c.comparison)

/-- The names of a grouping: the elements of the list that are not empty, or the parts of the
text between commas, trimmed, that are not blank. -/
def Grouping.names : Grouping → List String
  | .columns list => list.filter (· ≠ "")
  | .text s =>
    ((Text.splitAt ',' s.toList).map Text.trim).filterMap fun part ↦
      if part.isEmpty then none else some (String.ofList part)

/-! ### Requests -/

namespace Request

/-- There is at least one table, and all are acceptable. -/
def tableViolations (r : Request) : List Violation :=
  match r.tables.getD [] with
  | [] => [.noTables]
  | ts => ts.flatMap fun t ↦ t.toSource.violations

/-- All violations, in the order in which the rules run. -/
def violations (r : Request) : List Violation :=
  r.tableViolations ++
  (r.columns.getD []).flatMap (fun c ↦ checkOptionalColumn .selected c.column?) ++
  (r.aggregations.getD []).flatMap (fun a ↦ checkOptionalColumn .aggregated a.column) ++
  (r.filters.getD []).flatMap Filter.violations ++
  (match r.having with
    | some (.conditions list) => list.flatMap GroupCondition.violations
    | _ => []) ++
  (r.orderBy.getD []).flatMap (fun o ↦ checkOptionalColumn .ordering o.column) ++
  (match r.groupBy with
    | some g => g.names.flatMap (checkColumn .grouping)
    | none => [])

/-- The request breaks no rule, or the first that it breaks. -/
def validate (r : Request) : Except Violation Unit :=
  match r.violations with
  | [] => .ok ()
  | v :: _ => .error v

end Request

end ReportQuery
