import ReportQuery.Calendar
import ReportQuery.Number.Decimal
import ReportQuery.Text.Quoted

/-!
# Values

A filter value, a database cell or a JSON document is a value: null, a truth value, a number, a
text, a moment, a list, or a record whose fields keep their order. Filter values also come
tagged: as the name of a column, or as a literal whatever it looks like.

A value has two texts. `display` is the value as itself; `quotedText` is the value as it stands
inside a list or record, where texts are quoted and moments are written as constructions.
-/

namespace ReportQuery

/-- A value of any kind. -/
inductive Value where
  | null
  | bool (b : Bool)
  | int (n : Int)
  | float (x : Binary64)
  | text (s : String)
  | decimal (d : Decimal)
  | date (d : Date)
  | time (t : TimeOfDay)
  | timestamp (t : Timestamp)
  | list (items : List Value)
  | record (fields : List (String × Value))
  | column (table name : String)
  | literal (value : Value)

namespace Value

instance : Inhabited Value := ⟨.null⟩

/-! ### Number and truth texts -/

/-- Floating-point numbers are positional while the exponent of their first digit is from −4 to
15; whole ones end in `.0`, and an exponent has a sign and at least two digits. -/
def floatLayout : NumeralLayout where
  leastPositional := -4
  greatestPositional := 15
  wholeEnding := ".0"
  exponentMark := "e"
  exponentWidth := 2
  nanText := "nan"
  infinityText := "inf"

/-- The text of a floating-point number. -/
def floatText (x : Binary64) : String :=
  floatLayout.text x

/-- The word for a truth value. -/
def boolText (b : Bool) : String :=
  if b then "True" else "False"

/-! ### Constructions -/

/-- The parts of a time of day as arguments: seconds and microseconds stand only when they, or a
later part, are not zero. -/
def timeArguments (t : TimeOfDay) : List Nat :=
  [t.hour, t.minute] ++
    if t.microsecond ≠ 0 then [t.second, t.microsecond]
    else if t.second ≠ 0 then [t.second] else []

/-- Arguments between parentheses after a name. -/
def construction (name : String) (arguments : List String) : String :=
  name ++ "(" ++ ", ".intercalate arguments ++ ")"

/-- The offset of a timestamp as a construction; seconds are counted from the day before when the
offset is negative. -/
def offsetConstruction (minutes : Int) : String :=
  if minutes = 0 then "datetime.timezone.utc"
  else
    let arguments :=
      if minutes < 0 then ["days=-1", "seconds=" ++ toString ((1440 + minutes) * 60)]
      else ["seconds=" ++ toString (minutes * 60)]
    construction "datetime.timezone" [construction "datetime.timedelta" arguments]

/-- The date as a list of arguments. -/
def dateArguments (d : Date) : List String :=
  [toString d.year, toString d.month, toString d.day]

/-! ### The two texts -/

mutual

/-- The value as it stands inside a list or record. -/
def quotedText : Value → String
  | .null => "None"
  | .bool b => boolText b
  | .int n => toString n
  | .float x => floatText x
  | .text s => Text.quoted s
  | .decimal d => construction "Decimal" [Text.quoted d.text]
  | .date d => construction "datetime.date" (dateArguments d)
  | .time t => construction "datetime.time" ((timeArguments t).map toString)
  | .timestamp t =>
    construction "datetime.datetime" (dateArguments t.date ++ (timeArguments t.time).map toString ++
      (t.offset.map fun o ↦ "tzinfo=" ++ offsetConstruction o).toList)
  | .list items => "[" ++ ", ".intercalate (quotedTexts items) ++ "]"
  | .record fields => "\x7b" ++ ", ".intercalate (quotedFields fields) ++ "\x7d"
  | .column table name =>
    construction "ColumnReference" ["kind='column'", "table=" ++ Text.quoted table,
      "column=" ++ Text.quoted name]
  | .literal value => construction "LiteralValue" ["kind='literal'", "value=" ++ quotedText value]

/-- The values of a list, each as it stands inside. -/
def quotedTexts : List Value → List String
  | [] => []
  | v :: vs => quotedText v :: quotedTexts vs

/-- The fields of a record, each with its quoted key. -/
def quotedFields : List (String × Value) → List String
  | [] => []
  | (key, v) :: rest => (Text.quoted key ++ ": " ++ quotedText v) :: quotedFields rest

end

/-- The value as itself: texts are bare, and a timestamp has a space before its time. -/
def display : Value → String
  | .text s => s
  | .decimal d => d.text
  | .date d => d.iso
  | .time t => t.iso
  | .timestamp t => t.textWith " "
  | .column table name =>
    "kind='column' table=" ++ Text.quoted table ++ " column=" ++ Text.quoted name
  | .literal value => "kind='literal' value=" ++ quotedText value
  | v => v.quotedText

end Value

end ReportQuery
