import ReportQuery.Scalar
import ReportQuery.Vocabulary

/-!
# Report requests

A report request says which tables a report reads, which columns and aggregates it shows, and
how rows are filtered, grouped and ordered. It describes the intent of a report and not its
statement. Optional parts are options, since a part that is not given and an empty part can
differ.

The closed vocabularies of a request (join types, aggregate functions, comparisons, connectives
and directions) each list their members and the word for each.
-/

namespace ReportQuery

/-! ### Vocabularies -/

/-- How the rows of a joined table are matched. -/
inductive JoinType where
  | inner | left | right | full
deriving Repr, DecidableEq

instance : Vocabulary JoinType where
  all := [.inner, .left, .right, .full]
  word
    | .inner => "INNER"
    | .left => "LEFT"
    | .right => "RIGHT"
    | .full => "FULL"

/-- The function of an aggregate. -/
inductive AggregateFunction where
  | sum | avg | count | max | min
deriving Repr, DecidableEq

instance : Vocabulary AggregateFunction where
  all := [.sum, .avg, .count, .max, .min]
  word
    | .sum => "SUM"
    | .avg => "AVG"
    | .count => "COUNT"
    | .max => "MAX"
    | .min => "MIN"

/-- The comparison of a condition. -/
inductive Comparison where
  | equal | notEqual | greater | less | atLeast | atMost | like | notLike | among
deriving Repr, DecidableEq

instance : Vocabulary Comparison where
  all := [.equal, .notEqual, .greater, .less, .atLeast, .atMost, .like, .notLike, .among]
  word
    | .equal => "="
    | .notEqual => "!="
    | .greater => ">"
    | .less => "<"
    | .atLeast => ">="
    | .atMost => "<="
    | .like => "LIKE"
    | .notLike => "NOT LIKE"
    | .among => "IN"

/-- The comparison matches texts against a pattern. -/
def Comparison.isPatternMatch : Comparison → Bool
  | .like | .notLike => true
  | _ => false

/-- The connective between a filter and those before it. -/
inductive Connective where
  | and | or
deriving Repr, DecidableEq

instance : Vocabulary Connective where
  all := [.and, .or]
  word
    | .and => "AND"
    | .or => "OR"

/-- The direction of an ordering. -/
inductive Direction where
  | ascending | descending
deriving Repr, DecidableEq

instance : Vocabulary Direction where
  all := [.ascending, .descending]
  word
    | .ascending => "ASC"
    | .descending => "DESC"

/-! ### Parts of a request -/

/-- The two sides of an ON condition. -/
structure OnCondition where
  left : Option String := none
  right : Option String := none
deriving Repr, DecidableEq

/-- The two sides, when both are given and neither is empty. -/
def OnCondition.sides? (c : OnCondition) : Option (String × String) :=
  match c.left, c.right with
  | some left, some right => if left = "" ∨ right = "" then none else some (left, right)
  | _, _ => none

/-- A requested table, with its own join type and ON condition when it sets them. -/
structure TableSource where
  name : String
  joinType : Option JoinType := none
  on : Option OnCondition := none
deriving Repr, DecidableEq

/-- The sides of the table's own ON condition, when it is complete. -/
def TableSource.explicitSides? (t : TableSource) : Option (String × String) :=
  t.on.bind OnCondition.sides?

/-- A table of a request: a table source, or a name alone. -/
inductive TableEntry where
  | source (table : TableSource)
  | name (name : String)
deriving Repr, DecidableEq

/-- The entry as a table source. -/
def TableEntry.toSource : TableEntry → TableSource
  | .source table => table
  | .name bare => { name := bare }

/-- A selected column: an item with a name or without, a name alone, or nothing. -/
inductive ColumnEntry where
  | item (column : Option String)
  | name (column : String)
  | absent
deriving Repr, DecidableEq

/-- The name of the selected column, if there is one. -/
def ColumnEntry.column? : ColumnEntry → Option String
  | .item column => column
  | .name column => some column
  | .absent => none

/-- An aggregated column; it is complete when it has both parts. -/
structure Aggregation where
  function : Option AggregateFunction := none
  column : Option String := none
deriving Repr, DecidableEq

/-- An aggregate over a column, with nothing missing. -/
structure Aggregate where
  function : AggregateFunction
  column : String
deriving Repr, DecidableEq

/-- The aggregate that an aggregation denotes: it needs a function and a column that is not
empty. -/
def Aggregation.aggregate? (a : Aggregation) : Option Aggregate :=
  match a.function, a.column with
  | some function, some column => if column = "" then none else some { function, column }
  | _, _ => none

/-- What a filter compares its column with. A column or a literal may be tagged as such; an
untagged text may stand for either. -/
inductive FilterValue where
  | column (table name : String)
  | literal (value : Scalar)
  | list (items : List Scalar)
  | scalar (value : Scalar)
deriving DecidableEq

/-- The filter value as a value. -/
def FilterValue.toValue : FilterValue → Value
  | .column table name => .column table name
  | .literal value => .literal value.toValue
  | .list items => .list (items.map Scalar.toValue)
  | .scalar value => value.toValue

/-- A condition on rows. -/
structure Filter where
  column : String
  comparison : Comparison := .equal
  value : FilterValue := .scalar .null
  connective : Connective := .and
deriving DecidableEq

/-- A condition on groups, over an aggregate that is already written out. -/
structure GroupCondition where
  aggregation : String
  comparison : Comparison := .equal
  value : Scalar := .null
deriving DecidableEq

/-- The conditions on groups: a list, or a text that is used as it is. -/
inductive Having where
  | conditions (list : List GroupCondition)
  | raw (text : String)
deriving DecidableEq

/-- A column to order by. -/
structure OrderEntry where
  column : Option String := none
  direction : Direction := .ascending
deriving Repr, DecidableEq

/-- The columns to group by: a list, or a text with commas between them. -/
inductive Grouping where
  | columns (list : List String)
  | text (text : String)
deriving Repr, DecidableEq

/-- A whole report request. -/
structure Request where
  tables : Option (List TableEntry) := none
  joinType : JoinType := .inner
  columns : Option (List ColumnEntry) := none
  aggregations : Option (List Aggregation) := none
  filters : Option (List Filter) := none
  having : Option Having := none
  orderBy : Option (List OrderEntry) := none
  groupBy : Option Grouping := none
deriving DecidableEq

/-! ### Small lemmas -/

/-- The word of a join type stands for it. -/
theorem JoinType.ofWord?_word (t : JoinType) : Vocabulary.ofWord? (word t) = some t := by
  cases t <;> decide

theorem AggregateFunction.ofWord?_word (f : AggregateFunction) :
    Vocabulary.ofWord? (word f) = some f := by
  cases f <;> decide

theorem Comparison.ofWord?_word (c : Comparison) : Vocabulary.ofWord? (word c) = some c := by
  cases c <;> decide

theorem Connective.ofWord?_word (c : Connective) : Vocabulary.ofWord? (word c) = some c := by
  cases c <;> decide

theorem Direction.ofWord?_word (d : Direction) : Vocabulary.ofWord? (word d) = some d := by
  cases d <;> decide

end ReportQuery
