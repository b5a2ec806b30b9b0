import ReportQuery.Catalog.TypeName
import ReportQuery.Log
import ReportQuery.Value

/-!
# Database catalogs

A catalog says which tables a database has, with their columns and foreign keys. It is read in
three ways: the names of the tables, the columns of one table, and the foreign keys of all tables.
Tables are listed by name, in the order of code points; a table is looked up without regard to
the case of ASCII letters. Besides the tables that are listed there are a few that a database
keeps about itself, which can only be looked up.

A foreign key relates two tables only when it has one column and refers to one column. One that
names no referenced columns refers to the primary key of the table that is spelled exactly as it
says, and to nothing when there is no such table. Keys that say the same are one key, and keys
that relate nothing are left out, with an entry in the log.
-/

namespace ReportQuery

namespace Catalog

/-- A column with its declared type, a text that is empty when the type is left open. The values of
a primary key may be numbered through, and those of other columns computed. -/
structure Column where
  name : String
  type : String := ""
  isPrimary : Bool := false
  isNumbered : Bool := false
  isGenerated : Bool := false
deriving Repr, DecidableEq

/-- A foreign key: the columns of its own table, and the table and columns it refers to. -/
structure ForeignKey where
  columns : List String
  table : String
  referenced : List String
deriving Repr, DecidableEq

/-- A table, with its foreign keys in the order in which a database lists them. -/
structure Table where
  name : String
  columns : List Column
  foreignKeys : List ForeignKey := []
deriving Repr, DecidableEq

/-- A column of one table that refers to a column of another. -/
structure Reference where
  table : String
  column : String
  foreignTable : String
  foreignColumn : String
deriving Repr, DecidableEq

/-- The name that is shown for the type of a column. -/
def Column.typeName (c : Column) : String :=
  TypeName.standard c.type

/-- Both names belong to the same table, or to the same column of a table. -/
def sameName (a b : String) : Bool :=
  a.toLower = b.toLower

end Catalog

/-- The tables of a database. It remembers when a table with numbered rows was created, since it
keeps a table of the numbers from then on. -/
structure Catalog where
  tables : List Catalog.Table := []
  keepsNumbers : Bool := false
deriving Repr, DecidableEq

namespace Catalog

/-- Why the columns of a table cannot be told: there is no such table, or its name holds a null
character, so that it is not even looked for. -/
inductive LookupError where
  | notFound (name : String)
  | nullCharacter (name : String)
deriving Repr, DecidableEq

/-- The wording of the error. -/
def LookupError.message : LookupError → String
  | .notFound name => "Table '" ++ name ++ "' not found"
  | .nullCharacter _ => "the query contains a null character"

/-- A text that holds a null character. -/
def hasNull (s : String) : Bool :=
  s.toList.contains '\x00'

/-! ### Tables and columns -/

/-- The columns of the tables in which a database describes its tables. -/
def masterColumns : List Column := [
  { name := "type", type := "TEXT" }, { name := "name", type := "TEXT" },
  { name := "tbl_name", type := "TEXT" }, { name := "rootpage", type := "INT" },
  { name := "sql", type := "TEXT" }]

/-- The columns of the tables that take a document apart. -/
def documentColumns : List Column :=
  ["key", "value", "type", "atom", "id", "parent", "fullkey", "path"].map fun name ↦ { name }

/-- The table of the numbers last given to the rows of numbered tables. -/
def numbersTable : Table where
  name := "sqlite_sequence"
  columns := [{ name := "name" }, { name := "seq" }]

/-- The tables that a database has without listing them. -/
def unlisted (c : Catalog) : List Table :=
  (["sqlite_master", "sqlite_schema", "sqlite_temp_master", "sqlite_temp_schema"].map
    fun name ↦ { name, columns := masterColumns }) ++
  (["json_each", "json_tree"].map fun name ↦ { name, columns := documentColumns }) ++
  (if c.keepsNumbers then [numbersTable] else [])

/-- The listed table with the given name. -/
def find? (c : Catalog) (name : String) : Option Table :=
  c.tables.find? fun t ↦ sameName t.name name

/-- The tables in the order of their names. -/
def sorted (c : Catalog) : List Table :=
  c.tables.mergeSort fun s t ↦ s.name ≤ t.name

/-- The names of the tables, in order. -/
def tableNames (c : Catalog) : List String :=
  c.sorted.map (·.name)

/-- The columns of the table with the given name. The computed columns of a table are read from
its definition, which is found only under its exact name. -/
def columns (c : Catalog) (name : String) : Except LookupError (List Column) :=
  if hasNull name then .error (.nullCharacter name)
  else
    match (c.find? name).or (c.unlisted.find? fun t ↦ sameName t.name name) with
    | some t =>
      if t.columns.any (·.isGenerated) && t.name ≠ name then .error (.notFound name)
      else .ok t.columns
    | none => .error (.notFound name)

/-! ### Foreign keys -/

/-- The primary key of the table that is spelled exactly so. -/
def primaryKey (c : Catalog) (name : String) : List String :=
  match c.tables.find? fun t ↦ t.name = name with
  | some t => (t.columns.filter (·.isPrimary)).map (·.name)
  | none => []

/-- The foreign key with the columns that it refers to. An empty name says no column. -/
def resolve (c : Catalog) (k : ForeignKey) : ForeignKey :=
  let said := k.referenced.filter (· ≠ "")
  if (k.referenced.headD "").isEmpty then { k with referenced := c.primaryKey k.table ++ said }
  else { k with referenced := said }

/-- The foreign keys of a table, each once. -/
def foreignKeys (c : Catalog) (t : Table) : List ForeignKey :=
  (t.foreignKeys.map c.resolve).eraseDups

/-- What a foreign key of a table relates, when it is one column to one column. -/
def reference? (t : Table) (k : ForeignKey) : Option Reference :=
  match k.columns, k.referenced with
  | [column], [foreignColumn] =>
    some { table := t.name, column, foreignTable := k.table, foreignColumn }
  | _, _ => none

/-- The foreign keys that relate one column to one column, by table and then as they are
listed. -/
def references (c : Catalog) : List Reference :=
  c.sorted.flatMap fun t ↦ (c.foreignKeys t).filterMap (reference? t)

/-- One entry for each foreign key that relates nothing. Foreign keys have no names. -/
def skippedLog (c : Catalog) : List LogEntry :=
  c.sorted.flatMap fun t ↦
    ((c.foreignKeys t).filter fun k ↦ (reference? t k).isNone).map fun _ ↦
      ⟨.debug, .catalog, "Skipping composite foreign key None on " ++ t.name⟩

/-- The foreign keys, with the report of those left out. -/
def referencesLogged (c : Catalog) : Logged (List Reference) where
  value := c.references
  log := c.skippedLog

/-- The pairs of related tables, one for each foreign key. -/
def relatedTables (c : Catalog) : Logged (List (String × String)) :=
  c.referencesLogged.map fun refs ↦ refs.map fun r ↦ (r.table, r.foreignTable)

/-- The reference as a record. -/
def Reference.toValue (r : Reference) : Value :=
  .record [("table_name", .text r.table), ("column_name", .text r.column),
    ("foreign_table_name", .text r.foreignTable), ("foreign_column_name", .text r.foreignColumn)]

/-- The foreign keys as records, from which a relation graph is made. -/
def rows (c : Catalog) : Logged (List Value) :=
  c.referencesLogged.map fun refs ↦ refs.map Reference.toValue

end Catalog

end ReportQuery
