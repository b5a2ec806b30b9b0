import ReportQuery.JoinPlan
import ReportQuery.Sql.Operand

/-!
# Clauses

The clauses of a statement as data, and the text of each without its keyword. A clause is
present unless it has nothing to say; only SELECT is always present and shows every column when
nothing is selected.

Conditions on rows and on groups are always joined with AND. That a filter asks for OR is not
honored; `ignoredConnectives` finds the filters that do.
-/

namespace ReportQuery.Sql

/-! ### SELECT and FROM -/

/-- A selected expression, with its alias unless that is empty. -/
structure SelectItem where
  expression : String
  givenAlias : Option String := none
deriving Repr, DecidableEq

namespace SelectItem

/-- The alias that is not empty. -/
def writtenAlias? (i : SelectItem) : Option String :=
  i.givenAlias.filter (· ≠ "")

/-- The expression, followed by its alias if it has one. -/
def sql (i : SelectItem) : String :=
  match i.writtenAlias? with
  | some a => i.expression ++ " AS " ++ a
  | none => i.expression

/-- The key of the item in a row of the result. -/
def resultKey (i : SelectItem) : String :=
  i.writtenAlias?.getD i.expression

end SelectItem

/-- The selected items. -/
structure SelectClause where
  items : List SelectItem := []
deriving Repr, DecidableEq

namespace SelectClause

/-- The items one to a line, or a star when nothing is selected. -/
def sql (c : SelectClause) : String :=
  if c.items.isEmpty then "*" else ",\n\t".intercalate (c.items.map SelectItem.sql)

/-- The keys of a row of the result. -/
def aliases (c : SelectClause) : List String :=
  c.items.map SelectItem.resultKey

end SelectClause

/-- The base table and the joins, each on a line of its own. -/
structure FromClause where
  base : String
  joins : List JoinStep := []
deriving Repr, DecidableEq

namespace FromClause

/-- The base table, then each join on its line. -/
def sql (c : FromClause) : String :=
  "\n".intercalate (c.base :: c.joins.map JoinStep.sql)

/-- There is a base table. -/
def isPresent (c : FromClause) : Bool :=
  c.base != ""

end FromClause

/-! ### Conditions -/

/-- A comparison of two written sides. -/
structure Condition where
  left : String
  operator : String
  right : String
deriving Repr, DecidableEq

/-- The two sides with the operator between them. -/
def Condition.sql (c : Condition) : String :=
  c.left ++ " " ++ c.operator ++ " " ++ c.right

/-- Conditions that all have to hold. -/
def conjunction (conditions : List Condition) : String :=
  " AND ".intercalate (conditions.map Condition.sql)

/-- The conditions on rows. -/
structure WhereClause where
  conditions : List Condition := []
deriving Repr, DecidableEq

namespace WhereClause

/-- The conditions, joined with AND. -/
def sql (c : WhereClause) : String :=
  conjunction c.conditions

/-- There is a condition. -/
def isPresent (c : WhereClause) : Bool :=
  !c.conditions.isEmpty

end WhereClause

/-- The conditions on groups, or a text in their place. -/
structure HavingClause where
  conditions : List Condition := []
  raw : Option String := none
deriving Repr, DecidableEq

namespace HavingClause

/-- The text as it is, or else the conditions, joined with AND. -/
def sql (c : HavingClause) : String :=
  c.raw.getD (conjunction c.conditions)

/-- There is a text that is not blank, or a condition. -/
def isPresent (c : HavingClause) : Bool :=
  (c.raw.map fun s ↦ !(Text.trim s.toList).isEmpty).getD false || !c.conditions.isEmpty

end HavingClause

/-! ### GROUP BY and ORDER BY -/

/-- The columns to group by. -/
structure GroupByClause where
  columns : List String := []
deriving Repr, DecidableEq

namespace GroupByClause

/-- The columns with commas between them. -/
def sql (c : GroupByClause) : String :=
  ", ".intercalate c.columns

/-- There is a column. -/
def isPresent (c : GroupByClause) : Bool :=
  !c.columns.isEmpty

end GroupByClause

/-- A column to order by. -/
structure OrderItem where
  column : String
  direction : Direction := .ascending
deriving Repr, DecidableEq

/-- The column and the word for its direction. -/
def OrderItem.sql (i : OrderItem) : String :=
  i.column ++ " " ++ word i.direction

/-- The columns to order by. -/
structure OrderByClause where
  items : List OrderItem := []
deriving Repr, DecidableEq

namespace OrderByClause

/-- The items with commas between them. -/
def sql (c : OrderByClause) : String :=
  ", ".intercalate (c.items.map OrderItem.sql)

/-- There is an item. -/
def isPresent (c : OrderByClause) : Bool :=
  !c.items.isEmpty

end OrderByClause

/-! ### Building clauses -/

/-- The name of a column as a key: each point becomes an underscore. -/
def columnAlias (column : String) : String :=
  String.ofList (column.toList.map fun c ↦ if c = '.' then '_' else c)

end ReportQuery.Sql

namespace ReportQuery.Aggregate

/-- The written aggregate. -/
def expression (a : Aggregate) : String :=
  word a.function ++ "(" ++ a.column ++ ")"

/-- The key of an aggregate in a row of the result. -/
def resultAlias (a : Aggregate) : String :=
  word a.function ++ "_" ++ Sql.columnAlias a.column

end ReportQuery.Aggregate

namespace ReportQuery.Sql

/-- Aggregates come first, each under its alias; then the columns, of which those with a point
get an alias. -/
def SelectClause.build (columns : List String) (aggregates : List Aggregate) : SelectClause where
  items :=
    aggregates.map (fun a ↦ { expression := a.expression, givenAlias := some a.resultAlias }) ++
    columns.map fun c ↦
      { expression := c, givenAlias := if '.' ∈ c.toList then some (columnAlias c) else none }

/-- The tables of a join plan. -/
def FromClause.build (p : JoinPlan) : FromClause where
  base := p.base
  joins := p.joins

/-- The condition of a filter. -/
def Condition.ofFilter (dateFormat : String) (f : Filter) : Condition where
  left := columnOperand f.column f.comparison dateFormat
  operator := word f.comparison
  right :=
    let value := if f.comparison = .among then membershipList f.value else f.value
    valueOperand f.comparison value.toValue

/-- One condition for each filter. -/
def WhereClause.build (filters : List Filter) (dateFormat : String := defaultDateFormat) :
    WhereClause where
  conditions := filters.map (Condition.ofFilter dateFormat)

/-- The filters after the first that ask for OR. -/
def ignoredConnectives (filters : List Filter) : List Filter :=
  (filters.drop 1).filter fun f ↦ f.connective = .or

/-- The columns to group by: those that are asked for, or else every plain column of a report
that aggregates. -/
def resolveGroupBy (explicit : Option (List String)) (columns : List String) (aggregates : Bool) :
    Option (List String) :=
  match explicit with
  | some columns => some columns
  | none => if aggregates && !columns.isEmpty then some columns else none

/-- The grouping by the given columns; without any there is nothing to say. -/
def GroupByClause.build (columns : Option (List String)) : GroupByClause where
  columns := columns.getD []

/-- The condition of an entry of a HAVING list. -/
def Condition.ofGroupCondition (c : GroupCondition) : Condition where
  left := c.aggregation
  operator := word c.comparison
  right := c.value.toValue.asLiteral

/-- The clause of the conditions on groups, or of the text in their place. -/
def HavingClause.build : Option Having → HavingClause
  | none => {}
  | some (.raw clause) => { raw := some clause }
  | some (.conditions list) => { conditions := list.map Condition.ofGroupCondition }

/-- The item of an entry whose column is among the selected ones. -/
def OrderItem.ofEntry? (selected : List String) (o : OrderEntry) : Option OrderItem :=
  match o.column with
  | some c => if c ≠ "" ∧ c ∈ selected then some ⟨c, o.direction⟩ else none
  | none => none

/-- Only entries whose column is selected are kept. -/
def OrderByClause.build (entries : List OrderEntry) (selected : List String) : OrderByClause where
  items := entries.filterMap (OrderItem.ofEntry? selected)

/-- The entries whose column is not selected. -/
def droppedOrder (entries : List OrderEntry) (selected : List String) : List OrderEntry :=
  entries.filter fun o ↦ (OrderItem.ofEntry? selected o).isNone

end ReportQuery.Sql
