import ReportQuery.Request.Basic

/-!
# Requests as records

Every part of a request as a value whose record has all fields, given or not, under their full
names, with each word of a vocabulary as a text. Tagged filter values carry their tag, so a
record can be read as a request again.
-/

namespace ReportQuery

/-- A part that may be missing; then it is null. -/
def Value.ofOptional {α : Type} (toValue : α → Value) (a : Option α) : Value :=
  (a.map toValue).getD .null

/-- A list of parts. -/
def Value.ofParts {α : Type} (toValue : α → Value) (items : List α) : Value :=
  .list (items.map toValue)

/-- The word of a member of a vocabulary. -/
def Value.ofWord {α : Type} [Vocabulary α] (a : α) : Value :=
  .text (word a)

open Value (ofOptional ofParts ofWord)

/-- An ON condition with both sides, given or not. -/
def OnCondition.toValue (c : OnCondition) : Value :=
  .record [("left", ofOptional .text c.left), ("right", ofOptional .text c.right)]

/-- A table with its join type and ON condition, given or not. -/
def TableSource.toValue (t : TableSource) : Value :=
  .record [("name", .text t.name), ("join_type", ofOptional ofWord t.joinType),
    ("on", ofOptional OnCondition.toValue t.on)]

/-- A table of a request; a name alone stays a text. -/
def TableEntry.toValue : TableEntry → Value
  | .source table => table.toValue
  | .name bare => .text bare

/-- A selected column; a name alone stays a text. -/
def ColumnEntry.toValue : ColumnEntry → Value
  | .item column => .record [("column", ofOptional .text column)]
  | .name column => .text column
  | .absent => .null

/-- An aggregation with both parts, given or not. -/
def Aggregation.toValue (a : Aggregation) : Value :=
  .record [("func", ofOptional ofWord a.function), ("column", ofOptional .text a.column)]

/-- A filter value as a plain record or scalar: its tag is a field. -/
def FilterValue.toTaggedValue : FilterValue → Value
  | .column table name =>
    .record [("kind", .text "column"), ("table", .text table), ("column", .text name)]
  | .literal value => .record [("kind", .text "literal"), ("value", value.toValue)]
  | .list items => ofParts Scalar.toValue items
  | .scalar value => value.toValue

/-- A filter with its comparison and connective. -/
def Filter.toValue (f : Filter) : Value :=
  .record [("column", .text f.column), ("operator", ofWord f.comparison),
    ("value", f.value.toTaggedValue), ("logic", ofWord f.connective)]

/-- A condition on groups with its comparison. -/
def GroupCondition.toValue (c : GroupCondition) : Value :=
  .record [("aggregation", .text c.aggregation), ("operator", ofWord c.comparison),
    ("value", c.value.toValue)]

/-- An ordering with its direction. -/
def OrderEntry.toValue (o : OrderEntry) : Value :=
  .record [("column", ofOptional .text o.column), ("direction", ofWord o.direction)]

/-- The conditions on groups; a text stays a text. -/
def Having.toValue : Having → Value
  | .conditions list => ofParts GroupCondition.toValue list
  | .raw clause => .text clause

/-- The columns to group by; a text stays a text. -/
def Grouping.toValue : Grouping → Value
  | .columns list => ofParts .text list
  | .text names => .text names

/-- A whole request. -/
def Request.toValue (r : Request) : Value :=
  .record [("tables", ofOptional (ofParts TableEntry.toValue) r.tables),
    ("join_type", ofWord r.joinType),
    ("columns", ofOptional (ofParts ColumnEntry.toValue) r.columns),
    ("aggregation", ofOptional (ofParts Aggregation.toValue) r.aggregations),
    ("filters", ofOptional (ofParts Filter.toValue) r.filters),
    ("having", ofOptional Having.toValue r.having),
    ("order_by", ofOptional (ofParts OrderEntry.toValue) r.orderBy),
    ("group_by", ofOptional Grouping.toValue r.groupBy)]

end ReportQuery
