import ReportQuery.Checked
import ReportQuery.Request.Basic
import ReportQuery.Text.Blank
import ReportQuery.Text.Uppercase

/-!
# Reading requests

A document is checked against the shape of a request. Nothing is converted between kinds: a
number is no text and a truth value is no number. Words of a vocabulary are read in any case and
with any white space around and between them. Keys that a shape does not know are ignored; a
field that is not given has its default, and a field that may stand under several keys is taken
from the first of them that is present.

Each shape comes with a check of its own, built from checks of its fields, which run in a fixed
order and all report.
-/

namespace ReportQuery

open Checked

/-! ### Words -/

/-- A text in upper case, with single spaces between its words; a blank text is null. Values that
are no texts stay. -/
def Value.upperWords : Value → Value
  | .text s =>
    let t := Text.upper ([' '].intercalate (Text.words s.toList))
    if t.isEmpty then .null else .text (String.ofList t)
  | v => v

/-- The upper-case words of a join type, without the word JOIN at the end and without the word
OUTER before it. -/
def Value.joinTypeWords (v : Value) : Value :=
  match v.upperWords with
  | .text s =>
    .text (String.ofList
      (Text.dropEnding " OUTER".toList (Text.dropEnding " JOIN".toList s.toList)))
  | w => w

/-- The upper-case words of a comparison; the sign of two angle brackets means inequality. -/
def Value.comparisonWords (v : Value) : Value :=
  match v.upperWords with
  | .text s => if s = "<>" then .text (word Comparison.notEqual) else .text s
  | w => w

/-- The value, or the given word when nothing is given. -/
def Value.orWord (w : String) (v : Value) : Value :=
  if v.isGiven then v else .text w

/-! ### Checks of the parts of a request -/

/-- An ON condition; each side may be left out or null. -/
def OnCondition.ofValue (v : Value) : Checked OnCondition := do
  let fields ← fieldsOf "JoinCondition" v
  let (left, right) ← both (optional ["left"] none (nullable text) fields) <|
    optional ["right"] none (nullable text) fields
  return { left, right }

/-- A table; its join type and its ON condition may each stand under several keys. -/
def TableSource.ofValue (v : Value) : Checked TableSource := do
  let fields ← fieldsOf "TableRef" v
  let (name, joinType, on) ← both (required "name" text fields) <|
    both (optional ["join_type", "type", "joinType"] none
      (fun v ↦ nullable (member JoinType) v.joinTypeWords) fields) <|
    optional ["on", "explicitOn", "explicit_on"] none (nullable OnCondition.ofValue) fields
  return { name, joinType, on }

/-- A table of a request: a table as a record, or a name alone. -/
def TableEntry.ofValue (v : Value) : Checked TableEntry :=
  orElse (named "TableRef" (fun v ↦ (TableSource.ofValue v).map .source) v)
    (named "str" (fun v ↦ (text v).map .name) v)

/-- A column item is a record whose column may be left out. -/
def ColumnEntry.itemOfValue (v : Value) : Checked (Option String) := do
  let fields ← fieldsOf "ColumnItem" v
  optional ["column"] none (nullable text) fields

/-- A selected column: an item, a name alone, or null. -/
def ColumnEntry.ofValue : Value → Checked ColumnEntry
  | .null => .ok .absent
  | v =>
    orElse (named "ColumnItem" (fun v ↦ (itemOfValue v).map .item) v)
      (named "str" (fun v ↦ (Checked.text v).map .name) v)

/-- An aggregation; both parts may be left out. A column counts as left out unless it is given. -/
def Aggregation.ofValue (v : Value) : Checked Aggregation := do
  let fields ← fieldsOf "Aggregation" v
  let (function, column) ←
    both (optional ["func"] none
      (fun v ↦ nullable (member AggregateFunction) v.upperWords) fields) <|
    optional ["column"] none (fun v ↦ if v.isGiven then nullable text v else .ok none) fields
  return { function, column }

/-- A tagged column: the names of its table and of itself. -/
def FilterValue.columnOfValue (v : Value) : Checked (String × String) := do
  let fields ← fieldsOf "ColumnReference" v
  let (_, table, name) ← both (optional ["kind"] () (theWord "column") fields) <|
    both (required "table" text fields) (required "column" text fields)
  return (table, name)

/-- A tagged literal: its scalar. -/
def FilterValue.literalOfValue (v : Value) : Checked Scalar := do
  let fields ← fieldsOf "LiteralValue" v
  let (_, value) ← both (optional ["kind"] () (theWord "literal") fields) <|
    optional ["value"] .null Checked.scalar fields
  return value

/-- A tagged value: its field `kind` says which of the two it is. -/
def FilterValue.taggedOfValue (v : Value) : Checked FilterValue :=
  match v with
  | .record fields =>
    match fields.lookup "kind" with
    | none => fault .tagMissing
    | some tag =>
      match tag with
      | .text "column" =>
        named "column" (fun v ↦ (columnOfValue v).map fun c ↦ .column c.1 c.2) v
      | .text "literal" => named "literal" (fun v ↦ (literalOfValue v).map .literal) v
      | _ => fault (.tagUnknown tag.display)
  | _ => fault .notTagged

/-- A filter value: tagged, a list of scalars, or a scalar. -/
def FilterValue.ofValue (v : Value) : Checked FilterValue :=
  orElse (orElse (named "tagged-union[ColumnReference,LiteralValue]" taggedOfValue v)
    (named "list[nullable[union[str,int,float,bool]]]"
      (fun v ↦ (Checked.list Checked.scalar v).map .list) v))
    ((Checked.scalar v).map .scalar)

/-- A filter. The comparison is equality unless another is given, the connective AND. -/
def Filter.ofValue (v : Value) : Checked Filter := do
  let fields ← fieldsOf "Filter" v
  let (column, comparison, value, connective) ← both (required "column" text fields) <|
    both (optional ["operator"] .equal (fun v ↦ member Comparison v.comparisonWords) fields) <|
    both (optional ["value"] (.scalar .null) FilterValue.ofValue fields) <|
    optional ["logic"] .and
      (fun v ↦ member Connective (v.upperWords.orWord (word Connective.and))) fields
  return { column, comparison, value, connective }

/-- A condition on groups; its value is an untagged scalar. -/
def GroupCondition.ofValue (v : Value) : Checked GroupCondition := do
  let fields ← fieldsOf "HavingCondition" v
  let (aggregation, comparison, value) ← both (required "aggregation" text fields) <|
    both (optional ["operator"] .equal (fun v ↦ member Comparison v.comparisonWords) fields) <|
    optional ["value"] .null Checked.scalar fields
  return { aggregation, comparison, value }

/-- An ordering, ascending unless it says otherwise. -/
def OrderEntry.ofValue (v : Value) : Checked OrderEntry := do
  let fields ← fieldsOf "OrderClause" v
  let (column, direction) ← both (optional ["column"] none (nullable text) fields) <|
    optional ["direction"] .ascending
      (fun v ↦ member Direction (v.upperWords.orWord (word Direction.ascending))) fields
  return { column, direction }

/-- The conditions on groups: a list, or a text. -/
def Having.ofValue (v : Value) : Checked Having :=
  orElse (named "list[HavingCondition]"
      (fun v ↦ (Checked.list GroupCondition.ofValue v).map .conditions) v)
    (named "str" (fun v ↦ (text v).map .raw) v)

/-- The columns to group by: a list, or a text. -/
def Grouping.ofValue (v : Value) : Checked Grouping :=
  orElse (named "list[str]" (fun v ↦ (Checked.list Checked.text v).map .columns) v)
    (named "str" (fun v ↦ (Checked.text v).map .text) v)

/-! ### Requests -/

namespace Request

/-- The name of the shape of a request. -/
def shape : String := "ReportRequest"

/-- Reads a request. -/
def ofValue (v : Value) : Checked Request := do
  let fields ← fieldsOf shape v
  let (tables, joinType, columns, aggregations, filters, having, orderBy, groupBy) ←
    both (optional ["tables"] none (nullable (Checked.list TableEntry.ofValue)) fields) <|
    both (optional ["joinType", "join_type"] .inner
      (fun v ↦ member JoinType (v.joinTypeWords.orWord (word JoinType.inner))) fields) <|
    both (optional ["columns"] none (nullable (Checked.list ColumnEntry.ofValue)) fields) <|
    both (optional ["aggregation"] none (nullable (Checked.list Aggregation.ofValue)) fields) <|
    both (optional ["filters"] none (nullable (Checked.list Filter.ofValue)) fields) <|
    both (optional ["having"] none (nullable Having.ofValue) fields) <|
    both (optional ["orderBy", "order_by"] none
      (nullable (Checked.list OrderEntry.ofValue)) fields) <|
    optional ["groupBy", "group_by"] none (nullable Grouping.ofValue) fields
  return { tables, joinType, columns, aggregations, filters, having, orderBy, groupBy }

/-- How it is reported that a document is no request: in words on its faults and on what stands at
their places. There is no document when what should be read is none. -/
abbrev FaultReport := Option Value → List Fault → String

/-- The first line of a report on faults, alone. -/
def headline : FaultReport :=
  fun _ faults ↦ faultHeadline shape faults.length

end Request

end ReportQuery
