import ReportQuery.File
import ReportQuery.Log
import ReportQuery.Relation.Standard
import ReportQuery.Vocabulary

/-!
# Loading relation graphs

A graph comes from one of three sources: the standard edges, a JSON file with a list of edges,
or the foreign keys of a database catalog. Loading succeeds as a whole or fails with the first
thing that is wrong; there is no partial graph.

What a document holds in the place of a name is not checked, except that a list or a record
cannot name a table.
-/

namespace ReportQuery.Relation

/-- Where a graph is loaded from. -/
inductive Source where
  | static | file | catalog
deriving Repr, DecidableEq

instance : Vocabulary Source where
  all := [.static, .file, .catalog]
  word
    | .static => "static"
    | .file => "file"
    | .catalog => "catalog"

/-! ### Errors -/

/-- Why a value is no edge. -/
inductive EdgeFault where
  | notRecord (kind : String)
  | selfField
  | unknownField (name : String)
  | missingFields (names : List String)
deriving Repr, DecidableEq

/-- Why a graph cannot be loaded. -/
inductive LoadError where
  | unknownSource (source : String)
  | pathRequired
  | catalogRequired
  | unreadable (path : String) (fault : DocumentFault)
  | noEdgeList (path : String)
  | invalidEdge (raw : String) (path : String) (fault : EdgeFault)
  | rowField (field row : String)
  | rowNotRecord
  | tableNotNamed
deriving Repr, DecidableEq

namespace EdgeFault

/-- The name by which an edge refers to itself, so that it cannot name a field. -/
def selfName : String := "self"

/-- Quoted names with commas between them and the word `and` before the last. -/
def nameList : List String → String
  | [] => ""
  | [a] => "'" ++ a ++ "'"
  | [a, b] => "'" ++ a ++ "' and '" ++ b ++ "'"
  | names =>
    let quoted := names.map fun n ↦ "'" ++ n ++ "'"
    ", ".intercalate quoted.dropLast ++ ", and " ++ quoted.getLastD ""

/-- The wording of a fault. -/
def message : EdgeFault → String
  | .notRecord kind =>
    "packages.core.schema_registry.registry.RelationEdge() argument after ** must be a mapping, " ++
      "not " ++ kind
  | .selfField => "RelationEdge.__init__() got multiple values for argument '" ++ selfName ++ "'"
  | .unknownField name =>
    "RelationEdge.__init__() got an unexpected keyword argument '" ++ name ++ "'"
  | .missingFields names =>
    "RelationEdge.__init__() missing " ++ toString names.length ++
      (if names.length = 1 then " required positional argument: "
        else " required positional arguments: ") ++ nameList names

end EdgeFault

/-- The wording of an error. A row without fields, a table without a name and a file that is no
text have none. -/
def LoadError.message : LoadError → String
  | .unknownSource source => "Unknown relation graph source '" ++ source ++ "'"
  | .pathRequired => "relation graph source 'file' requires a path"
  | .catalogRequired => "relation graph source 'catalog' requires a catalog reader"
  | .unreadable path fault =>
    "Cannot read relation graph file '" ++ path ++ "': " ++ fault.message
  | .noEdgeList path => "Relation graph file '" ++ path ++ "' must contain an 'edges' list"
  | .invalidEdge raw path fault =>
    "Invalid edge " ++ raw ++ " in '" ++ path ++ "': " ++ fault.message
  | .rowField field row =>
    "Catalog foreign-key row is missing " ++ Text.quoted field ++ ": " ++ row
  | .rowNotRecord => ""
  | .tableNotNamed => ""

/-! ### Edges from documents -/

/-- An edge as a document gives it, before its tables are known to have names. -/
structure RawEdge where
  owner : Value
  referenced : Value
  column : Value
  key : Value := .text "id"

/-- The edge, when both its tables are named by scalars. -/
def RawEdge.named? (e : RawEdge) : Option Edge := do
  let owner ← Scalar.ofValue? e.owner
  let referenced ← Scalar.ofValue? e.referenced
  return { owner, referenced, column := e.column, key := e.key }

/-- The edge as a document or a row gives it. -/
def Edge.raw (e : Edge) : RawEdge where
  owner := e.owner.toValue
  referenced := e.referenced.toValue
  column := e.column
  key := e.key

@[simp] theorem Edge.named?_raw (e : Edge) : e.raw.named? = some e := by
  simp [raw, RawEdge.named?]

theorem RawEdge.eq_raw_of_named? {r : RawEdge} {e : Edge} (h : r.named? = some e) : r = e.raw := by
  obtain ⟨owner, referenced, column, key⟩ := r
  simp only [named?, Option.bind_eq_bind, Option.bind_eq_some_iff, Option.pure_def,
    Option.some.injEq] at h
  obtain ⟨o, ho, r, hr, rfl⟩ := h
  simp only [Edge.raw, Scalar.toValue_of_ofValue? ho, Scalar.toValue_of_ofValue? hr]

/-- The graph of the given edges, provided that every table has a name. -/
def Graph.ofRaw (edges : List RawEdge) : Except LoadError Graph :=
  match edges.mapM RawEdge.named? with
  | some edges => .ok (.ofEdges edges)
  | none => .error .tableNotNamed

/-- The fields of an edge in a document. -/
def edgeFields : List String := ["owner_table", "referenced_table", "fk_column", "referenced_key"]

/-- The fields that an edge must have. -/
def requiredFields : List String := ["owner_table", "referenced_table", "fk_column"]

/-- The word for the kind of a document value. -/
def kindWord : Value → String
  | .null => "NoneType"
  | .bool _ => "bool"
  | .int _ => "int"
  | .float _ => "float"
  | .text _ => "str"
  | .list _ => "list"
  | _ => "dict"

/-- What is wrong with a field that edges do not have. -/
def EdgeFault.ofField (name : String) : EdgeFault :=
  if name = selfName then .selfField else .unknownField name

/-- Reads an edge. The first field that edges do not have is reported before one that is
missing. -/
def RawEdge.ofValue (v : Value) : Except EdgeFault RawEdge :=
  match v with
  | .record fields =>
    match fields.find? fun f ↦ f.1 ∉ edgeFields with
    | some (name, _) => .error (.ofField name)
    | none =>
      match fields.lookup "owner_table", fields.lookup "referenced_table",
        fields.lookup "fk_column" with
      | some owner, some referenced, some column =>
        .ok { owner, referenced, column, key := (fields.lookup "referenced_key").getD (.text "id") }
      | _, _, _ => .error (.missingFields (requiredFields.filter fun n ↦ (fields.lookup n).isNone))
  | v => .error (.notRecord (kindWord v))

/-! ### Graphs from files -/

/-- Reads the edges in turn, up to the first that is none. -/
def readEdges (path : String) : List Value → Except LoadError (List RawEdge)
  | [] => .ok []
  | v :: vs =>
    match RawEdge.ofValue v with
    | .error fault => .error (.invalidEdge v.quotedText path fault)
    | .ok e => (readEdges path vs).map (e :: ·)

/-- The edge list of a document and its version. -/
def documentParts (path : String) : Value → Except LoadError (List Value × Value)
  | .record fields =>
    match fields.lookup "edges" with
    | some (.list items) => .ok (items, (fields.lookup "version").getD (.text "unversioned"))
    | _ => .error (.noEdgeList path)
  | _ => .error (.noEdgeList path)

/-- The graph in a file. The edges are reported as loaded before their tables are looked at. -/
def Graph.ofFile (directory : Directory) (path : String) : Logged (Except LoadError Graph) :=
  match File.readDocument directory path with
  | .error fault => { value := .error (.unreadable path fault) }
  | .ok document =>
    match documentParts path document with
    | .error e => { value := .error e }
    | .ok (items, version) =>
      match readEdges path items with
      | .error e => { value := .error e }
      | .ok edges =>
        { value := Graph.ofRaw edges
          log := [⟨.info, .relations, "Loaded " ++ toString edges.length ++
            " relation edges from " ++ path ++ " (version " ++ version.display ++ ")"⟩] }

/-! ### Graphs from catalogs -/

/-- The value of a field of a row, with the row for the message when it is missing. -/
def rowField (fields : List (String × Value)) (field : String) : Except LoadError Value :=
  match fields.lookup field with
  | some v => .ok v
  | none => .error (.rowField field (Value.record fields).quotedText)

/-- Reads a foreign key of a catalog. A referenced column that is not given is `id`. -/
def RawEdge.ofRow (row : Value) : Except LoadError RawEdge :=
  match row with
  | .record fields => do
    let owner ← rowField fields "table_name"
    let referenced ← rowField fields "foreign_table_name"
    let column ← rowField fields "column_name"
    let key := (fields.lookup "foreign_column_name").getD .null
    return { owner, referenced, column, key := if key.isGiven then key else .text "id" }
  | _ => .error .rowNotRecord

/-- The graph of the foreign keys of a catalog. -/
def Graph.ofRows (rows : List Value) : Except LoadError Graph := do
  Graph.ofRaw (← rows.mapM RawEdge.ofRow)

/-! ### Loading from a source -/

/-- What the sources need. The rows of the catalog are read only when they are asked for. -/
structure Supplies where
  directory : Directory := {}
  path : Option String := none
  catalog : Option (Unit → Logged (List Value)) := none

/-- The graph of a source that is known. -/
def Source.graph (source : Source) (s : Supplies) : Logged (Except LoadError Graph) :=
  match source with
  | .static => { value := .ok .standard }
  | .file =>
    match s.path with
    | none => { value := .error .pathRequired }
    | some path => Graph.ofFile s.directory path
  | .catalog =>
    match s.catalog with
    | none => { value := .error .catalogRequired }
    | some rows => (rows ()).map Graph.ofRows

/-- Loads a graph from the source with the given word. -/
def load (source : Value) (s : Supplies) : Logged (Except LoadError Graph) :=
  let known : Option Source := match source with
    | .text w => Vocabulary.ofWord? w
    | _ => none
  match known with
  | none => { value := .error (.unknownSource source.display) }
  | some known =>
    (known.graph s).andThen fun
      | .error e => { value := .error e }
      | .ok g =>
        { value := .ok g
          log := [⟨.info, .relations, "Relation graph ready: source=" ++ word known ++ " edges=" ++
            toString g.size⟩] }

end ReportQuery.Relation
