import ReportQuery.Catalog.Basic
import ReportQuery.Catalog.Declaration

/-!
# Definitions of tables

A table is created from a definition: its name, its columns with their declarations, and its
foreign keys. A definition that the database cannot accept is refused with the reason, and so is
the removal of a table that is not there; a refusal changes nothing.

The foreign keys of a table come from the declarations of its columns and from the definition
itself. A database lists first those that it finds spelled out in the definition, and then the
others, the latest first.
-/

namespace ReportQuery.Catalog

/-- The definition of a table: columns with their declarations, and foreign keys. -/
structure TableDefinition where
  name : String
  columns : List (String × String)
  foreignKeys : List ForeignKey := []
deriving Repr, DecidableEq

/-- Why the tables of a database cannot be changed as asked. -/
inductive SchemaError where
  | nullCharacter
  | tableExists (name : String)
  | tableNotFound (name : String)
  | nameReserved (name : String)
  | noColumns
  | columnRepeated
  | declarationUnreadable (column : String)
  | primaryKeyRepeated
  | numberingMisplaced (column : String)
  | valueGeneratedAndGiven (column : String)
  | allGenerated
  | collationUnknown (name : String)
  | keyColumnUnknown (name : String)
  | keyColumnsUnequal
deriving Repr, DecidableEq

/-! ### Columns -/

namespace ColumnClause

/-- The clause makes its column the primary key. -/
def isPrimaryKey : ColumnClause → Bool
  | .primaryKey _ _ => true
  | _ => false

/-- The clause asks for the values of the primary key to be numbered through. -/
def isNumbering : ColumnClause → Bool
  | .primaryKey _ numbered => numbered
  | _ => false

/-- The collations that every database has. -/
def collations : List String := ["BINARY", "NOCASE", "RTRIM"]

/-- The clause asks for a collation that is not there. -/
def unknownCollation? : ColumnClause → Option String
  | .collation name => if collations.any (sameName name) then none else some name
  | _ => none

/-- The foreign key that a clause makes of its column. -/
def foreignKey? (column : String) : ColumnClause → Option ForeignKey
  | .references table referenced => some { columns := [column], table, referenced }
  | _ => none

end ColumnClause

namespace Declaration

/-- The declaration makes its column the primary key. -/
def isPrimary (d : Declaration) : Bool :=
  d.clauses.any (·.isPrimaryKey)

/-- The values of the column are numbered through. -/
def isNumbered (d : Declaration) : Bool :=
  d.clauses.any (·.isNumbering)

/-- The value of the column is computed. -/
def isGenerated (d : Declaration) : Bool :=
  d.clauses.contains .generated

/-- The clause asks for a numbering that the column does not allow: only integers in rising order
can be numbered through. -/
def isMisnumbered (d : Declaration) : ColumnClause → Bool
  | .primaryKey descending numbered => numbered && (descending || !sameName d.type "INTEGER")
  | _ => false

/-- What is wrong with the declaration of a column, seen by itself. -/
def fault? (column : String) (d : Declaration) : Option SchemaError :=
  if d.clauses.any d.isMisnumbered then some (.numberingMisplaced column)
  else if d.isGenerated && (d.isPrimary || d.clauses.contains .default ||
      1 < d.clauses.count .generated) then
    some (.valueGeneratedAndGiven column)
  else (d.clauses.findSome? (·.unknownCollation?)).map .collationUnknown

/-- The column that is declared. -/
def column (name : String) (d : Declaration) : Column where
  name := name
  type := d.type
  isPrimary := d.isPrimary
  isNumbered := d.isNumbered
  isGenerated := d.isGenerated

end Declaration

/-! ### Foreign keys -/

namespace ForeignKey

/-- The key has as many columns as it refers to, unless it refers to a primary key. -/
def isBalanced (k : ForeignKey) : Bool :=
  !k.columns.isEmpty && (k.referenced.isEmpty || k.referenced.length = k.columns.length)

/-- A name that can be told from the text around it. -/
def isPlainName (s : String) : Bool :=
  s ≠ "" && s.toList.all fun c ↦ c ≠ '"' && c ≠ '\n'

/-- The key says everything by plain names. -/
def isSpelledOut (k : ForeignKey) : Bool :=
  !k.referenced.isEmpty && (k.table :: k.columns ++ k.referenced).all isPlainName

/-- The key with its columns as the table spells them. -/
def spelledAs (names : List String) (k : ForeignKey) : Except SchemaError ForeignKey := do
  let columns ← k.columns.mapM fun column ↦
    match names.find? (sameName column) with
    | some name => .ok name
    | none => .error (.keyColumnUnknown column)
  return { k with columns }

end ForeignKey

/-! ### Tables -/

namespace TableDefinition

/-- All names and declarations of a definition. -/
def texts (d : TableDefinition) : List String :=
  d.name :: d.columns.flatMap (fun (name, declaration) ↦ [name, declaration]) ++
    d.foreignKeys.flatMap fun k ↦ k.table :: k.columns ++ k.referenced

/-- The columns of a definition with what their declarations say. -/
def declarations (d : TableDefinition) : Except SchemaError (List (String × Declaration)) :=
  d.columns.mapM fun (name, text) ↦
    match Declaration.read? text with
    | none => .error (.declarationUnreadable name)
    | some declaration =>
      match declaration.fault? name with
      | some e => .error e
      | none => .ok (name, declaration)

/-- What is wrong with columns that are all right by themselves. -/
def columnsFault? (columns : List (String × Declaration)) : Option SchemaError :=
  let names := columns.map (·.1.toLower)
  if columns.isEmpty then some .noColumns
  else if names.eraseDups ≠ names then some .columnRepeated
  else if 1 < (columns.flatMap (·.2.clauses)).countP (·.isPrimaryKey) then
    some .primaryKeyRepeated
  else if columns.all (·.2.isGenerated) then some .allGenerated
  else none

/-- The foreign keys of the columns and of the definition, in the order in which a database lists
them. A key of the definition is spelled out only if its columns are spelled as in the table. -/
def listedKeys (columns : List (String × Declaration)) (keys : List ForeignKey) :
    Except SchemaError (List ForeignKey) := do
  let inline := columns.flatMap fun (name, d) ↦ d.clauses.filterMap (·.foreignKey? name)
  if !(inline ++ keys).all (·.isBalanced) then throw .keyColumnsUnequal
  let spelled ← keys.mapM (·.spelledAs (columns.map (·.1)))
  let pairs := keys.zip spelled
  let isFound (pair : ForeignKey × ForeignKey) : Bool :=
    pair.1.isSpelledOut && pair.1.columns = pair.2.columns
  let found := (pairs.filter isFound).map (·.2)
  let others := inline ++ (pairs.filter fun pair ↦ !isFound pair).map (·.2)
  return found ++ others.reverse

/-- The table that is defined. -/
def table (d : TableDefinition) : Except SchemaError Table := do
  let columns ← d.declarations
  if let some e := columnsFault? columns then throw e
  return { name := d.name
           columns := columns.map fun (name, declaration) ↦ declaration.column name
           foreignKeys := ← listedKeys columns d.foreignKeys }

end TableDefinition

/-! ### Changes -/

/-- The beginning of the names that a database keeps for itself. -/
def reservedStart : String := "sqlite_"

/-- The catalog with one more table. -/
def create (c : Catalog) (d : TableDefinition) : Except SchemaError Catalog :=
  if d.texts.any hasNull then .error .nullCharacter
  else if reservedStart.isPrefixOf d.name.toLower then .error (.nameReserved d.name)
  else if (c.find? d.name).isSome then .error (.tableExists d.name)
  else d.table.map fun t ↦
    { tables := c.tables ++ [t]
      keepsNumbers := c.keepsNumbers || t.columns.any (·.isNumbered) }

/-- The catalog without the table of the given name. -/
def drop (c : Catalog) (name : String) : Except SchemaError Catalog :=
  if hasNull name then .error .nullCharacter
  else if (c.find? name).isNone then .error (.tableNotFound name)
  else .ok { c with tables := c.tables.filter fun t ↦ !sameName t.name name }

/-- The catalog of a database in which tables are created one after the other. -/
def ofDefinitions (definitions : List TableDefinition) : Except SchemaError Catalog :=
  definitions.foldlM create {}

end ReportQuery.Catalog
