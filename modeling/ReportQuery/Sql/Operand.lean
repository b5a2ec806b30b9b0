import ReportQuery.Request.Basic
import ReportQuery.Sql.Literal
import ReportQuery.Sql.Pattern
import ReportQuery.Text.Uppercase

/-!
# Operands of conditions

The two sides of a filter as they stand in a statement. On the left is the filtered column,
which is turned into text when a pattern is matched against a date. On the right is the filter
value: a tagged column by its name, a list as a list of literals, and a scalar as a literal. An
untagged text of the form `table.column` stands for that column.

A pattern is always a text, whatever its value is. A text that is compared for equality has its
first letter in upper case.
-/

namespace ReportQuery.Sql

/-- The format in which dates are turned into text unless another is given. -/
def defaultDateFormat : String := "YYYY-MM-DD HH24:MI:SS"

/-! ### Columns -/

/-- A letter of a column name in a filter value: a basic letter, the underscore, or one of the
four letters whose other case, in some language, is a basic letter. -/
def isNameLetter (c : Char) : Bool :=
  c.isAlpha || c = '_' || c = '\u0130' || c = '\u0131' || c = '\u017f' || c = '\u212a'

/-- The text without one line feed at its end. -/
def dropFinalNewline (s : List Char) : List Char :=
  if s.getLast? = some '\n' then s.dropLast else s

/-- The text has the form `table.column`, perhaps with a line feed after it. -/
def isColumnText (s : List Char) : Bool :=
  match Text.splitAt '.' (dropFinalNewline s) with
  | [table, name] =>
    !table.isEmpty && table.all isNameLetter && !name.isEmpty && name.all isNameLetter
  | _ => false

/-- The lower-case form of a letter of a column name. The dotted capital I keeps its dot, as a
combining character. -/
def lowerNameChar (c : Char) : List Char :=
  if c = '\u0130' then ['i', '\u0307']
  else if c = '\u212a' then ['k']
  else [c.toLower]

/-- The words that mark a column as a date or a time. -/
def dateMarkers : List String := ["date", "time", "created", "updated"]

/-- The last part of the column name has a word that marks a date or a time. -/
def isDateColumn (column : String) : Bool :=
  let name := (Text.afterLast '.' column.toList).map Char.toLower
  dateMarkers.any fun marker ↦ Text.occursIn marker.toList name

/-- The filtered column; a date is turned into text for a pattern. -/
def columnOperand (column : String) (comparison : Comparison)
    (dateFormat : String := defaultDateFormat) : String :=
  if comparison.isPatternMatch && isDateColumn column then
    "TO_CHAR(" ++ column ++ ", " ++ (Value.text dateFormat).asLiteral ++ ")"
  else column

/-! ### Values -/

/-- The text with its first character in upper case. -/
def capitalize : List Char → List Char
  | [] => []
  | c :: cs => Text.upperChar c ++ cs

/-- A value that is taken as a literal. -/
def literalOperand (comparison : Comparison) (v : Value) : String :=
  match v with
  | .null => v.asLiteral
  | .text s =>
    if comparison.isPatternMatch then quoteText (String.ofList (containsPattern s.toList))
    else if comparison = .equal && !v.isNumeric then
      (Value.text (String.ofList (capitalize s.toList))).asLiteral
    else v.asLiteral
  | v =>
    if comparison.isPatternMatch then
      quoteText (String.ofList (containsPattern v.display.toList))
    else v.asLiteral

/-- The right side of a filter. -/
def valueOperand (comparison : Comparison) (v : Value) : String :=
  match v with
  | .column table name => table ++ "." ++ name
  | .literal v => literalOperand comparison v
  | .list items => literalList items
  | .text s =>
    if isColumnText s.toList then String.ofList (s.toList.flatMap lowerNameChar)
    else literalOperand comparison v
  | v => literalOperand comparison v

/-- The value against which membership is tested: what is no list is the list of itself, but a
tagged column stays. -/
def membershipList : FilterValue → FilterValue
  | .column table name => .column table name
  | .literal value => .list [value]
  | .list items => .list items
  | .scalar value => .list [value]

end ReportQuery.Sql
