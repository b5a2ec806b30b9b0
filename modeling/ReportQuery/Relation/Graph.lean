import ReportQuery.NameTable

/-!
# The relation graph

Tables are related by foreign keys. An edge says that a column of one table, the owner, refers
to a key of another; the graph answers whether two tables are related, in whichever order they
are named, and by which edge. When several edges relate the same two tables, the first declared
one answers.

The graph holds its edges in the order of their declaration, and beside them a table of
neighbours for each table, from which lookups are answered.
-/

namespace ReportQuery

namespace Relation

/-- One foreign key between two tables. -/
structure Edge where
  owner : Scalar
  referenced : Scalar
  column : Value
  key : Value := .text "id"

namespace Edge

/-- The qualified column of the owner. -/
def ownerSide (e : Edge) : String :=
  e.owner.display ++ "." ++ e.column.display

/-- The qualified key of the referenced table. -/
def referencedSide (e : Edge) : String :=
  e.referenced.display ++ "." ++ e.key.display

/-- The table at the other end. -/
def other (e : Edge) (table : Scalar) : Scalar :=
  if table.sameName e.owner then e.referenced else e.owner

/-- The edge relates the two tables, in either direction. -/
def links (e : Edge) (a b : Scalar) : Bool :=
  (e.owner.sameName a && e.referenced.sameName b) || (e.owner.sameName b && e.referenced.sameName a)

end Edge

/-- For each table its neighbours, each with the edge that leads there. -/
abbrev Adjacency := NameTable (NameTable Edge)

namespace Adjacency

/-- The neighbours after one more edge. A neighbour that is known already keeps its edge. -/
def link (adjacency : Adjacency) (e : Edge) : Adjacency :=
  let withEnds := NameTable.insertNew e.referenced [] (NameTable.insertNew e.owner [] adjacency)
  NameTable.modify e.referenced (NameTable.insertNew e.owner e)
    (NameTable.modify e.owner (NameTable.insertNew e.referenced e) withEnds)

/-- The neighbours of all tables that occur in the edges. -/
def ofEdges (edges : List Edge) : Adjacency :=
  edges.foldl link []

end Adjacency

/-- The foreign keys of a schema, with the neighbours of each table. -/
structure Graph where
  edges : List Edge
  adjacency : Adjacency
  adjacency_eq : adjacency = Adjacency.ofEdges edges

namespace Graph

/-- The graph with the given edges. -/
def ofEdges (edges : List Edge) : Graph where
  edges
  adjacency := Adjacency.ofEdges edges
  adjacency_eq := rfl

/-- The edge between two tables. -/
def edge? (g : Graph) (a b : Scalar) : Option Edge :=
  (NameTable.find? a g.adjacency).bind (NameTable.find? b)

/-- The tables that are directly related to a table. -/
def neighbors (g : Graph) (table : Scalar) : List Scalar :=
  ((NameTable.find? table g.adjacency).map NameTable.names).getD []

/-- The table takes part in some relation. -/
def hasTable (g : Graph) (table : Scalar) : Bool :=
  (NameTable.find? table g.adjacency).isSome

/-- Every table that takes part in some relation. -/
def tables (g : Graph) : List Scalar :=
  NameTable.names g.adjacency

/-- The number of declared edges. -/
def size (g : Graph) : Nat :=
  g.edges.length

/-- The related pairs of tables, owner first, one for each edge. -/
def relatedPairs (g : Graph) : List (Scalar × Scalar) :=
  g.edges.map fun e ↦ (e.owner, e.referenced)

/-! ### Small lemmas -/

@[simp] theorem edges_ofEdges (edges : List Edge) : (ofEdges edges).edges = edges := rfl

/-- A graph is determined by its edges. -/
theorem ofEdges_edges (g : Graph) : ofEdges g.edges = g := by
  cases g with
  | mk edges adjacency h => subst h; rfl

end Graph

end Relation

end ReportQuery
