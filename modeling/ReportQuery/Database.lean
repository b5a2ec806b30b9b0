import ReportQuery.Record

/-!
# Databases

A database as a report meets it: it is connected to, handed one statement, and asked for the
rows. Each of the three can fail. What happened to a database is a list of accesses, so that two
runs can be compared by what they did and not only by what they returned.

A cell of a row is a value or an object of some other type. Nothing is known of such an object
but its text and the document that it can be written as, if it can be written as one.
-/

namespace ReportQuery

/-- Why a database does not answer: it says so itself, with the kind of the failure, or something
else went wrong. -/
inductive DatabaseFault where
  | reported (kind text : String)
  | foreign (text : String)
deriving Repr, DecidableEq

/-- The text of a failure. -/
def DatabaseFault.text : DatabaseFault → String
  | .reported _ text => text
  | .foreign text => text

/-- A statement with its parameters, if it has any. -/
structure Statement where
  text : String
  parameters : Option (List Value) := none

/-- What is done to a database. -/
inductive DatabaseAccess where
  | connect
  | execute (statement : Statement)
  | close

/-! ### Rows -/

/-- An object that is no value, such as octets, or what a driver makes of a type of its own. -/
structure Object where
  text : String
  document : Option Value := none

/-- A cell of a row. -/
inductive Cell where
  | value (v : Value)
  | object (o : Object)

/-- The cells of a row under the names of their columns. -/
abbrev Row := Fields Cell

/-- The rows of an answer, and the names of its columns. -/
structure ResultSet where
  columns : List String := []
  rows : List Row := []

/-- The greatest integer up to which every integer is a floating-point number too. -/
def greatestExact : Nat := Nat.pow 2 53 - 1

/-- The value as it can be handed on without loss: an integer that a reader of floating-point
numbers would round becomes a text. -/
def Value.exchangeable : Value → Value
  | .int n => if n.natAbs ≤ greatestExact then .int n else .text (toString n)
  | v => v

/-- The cell as it is handed on. -/
def Cell.exchangeable : Cell → Cell
  | .value v => .value v.exchangeable
  | .object o => .object o

/-- A database by what it answers to one statement: columns and rows, unless connecting,
executing or fetching fails. -/
structure Database where
  columns : List String := []
  rows : List (List Cell) := []
  onConnect : Option DatabaseFault := none
  onExecute : Option DatabaseFault := none
  onFetch : Option DatabaseFault := none

/-- A row under its columns. A column that comes twice has its last cell; cells without a column
and columns without a cell are left out. -/
def Database.record (columns : List String) (cells : List Cell) : Row :=
  Fields.ofPairs ((columns.zip cells).map fun (column, cell) ↦ (column, cell.exchangeable))

end ReportQuery
