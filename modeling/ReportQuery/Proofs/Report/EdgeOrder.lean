import Mathlib.Data.Sym.Sym2
import ReportQuery.Proofs.Relation.Lookup
import ReportQuery.Relation.Loading
import ReportQuery.Report.Compiled

/-!
# The order of declared edges

The graph of a schema can be written down in many orders, and a file, a catalog and a list in the
code need not agree on one. Compiling asks a graph for one thing only: which edge comes first among
those that link two tables (`JoinPlan.findEdge`). So two lists of edges that differ in order
compile every request alike, as long as the edges that link the same two tables stay in order among
themselves (`Compiler.compile_eq_of_reordered`).

The order of the tables in FROM is that of the request. The neighbours of a table are kept in the
order in which the edges bring them up, which does change with the order of the edges; the proof
goes through because a plan searches FROM for a table with an edge, and never the neighbours.

## Which orders are allowed

`Reordered` says of two lists of edges that they have the same edges, and the same order for each
pair of tables. Two neighbours that link different tables may change places, which is the simplest
case (`Reordered.swap`). Two edges between the same tables may not: the first of them joins the
tables.
-/

namespace ReportQuery

namespace Relation

/-- The two tables that the edge links, in no order, each by the representative of its names. -/
def Edge.pair (e : Edge) : Sym2 Scalar :=
  s(e.owner.key, e.referenced.key)

/-- An edge links two names exactly when they are its pair, in either order. -/
theorem Edge.links_iff {e : Edge} {a b : Scalar} :
    e.links a b = true ↔ e.pair = s(a.key, b.key) := by
  simp only [links, pair, Bool.or_eq_true, Bool.and_eq_true, Scalar.sameName_iff, Sym2.eq_iff]

/-- The two lists have the same edges, and edges that link the same two tables stand in the same
order in both. -/
structure Reordered (edges edges' : List Edge) : Prop where
  perm : edges.Perm edges'
  linking_eq : ∀ tables : Sym2 Scalar,
    edges.filter (·.pair = tables) = edges'.filter (·.pair = tables)

/-- Two edges in a row that do not link the same two tables may change places. -/
theorem Reordered.swap {e e' : Edge} (before after : List Edge) (h : e.pair ≠ e'.pair) :
    Reordered (before ++ e :: e' :: after) (before ++ e' :: e :: after) where
  perm := (List.Perm.swap e' e after).append_left before
  linking_eq tables := by
    rw [List.filter_append, List.filter_append]
    refine congrArg _ ?_
    by_cases he : e.pair = tables
    · simp [he, show e'.pair ≠ tables from he ▸ h.symm]
    · simp [List.filter_cons, he]

/-- **Reordering changes no answer**: the first edge that links two tables stays the first. -/
theorem Reordered.edge?_eq {g g' : Graph} (h : Reordered g.edges g'.edges) (a b : Scalar) :
    g.edge? a b = g'.edge? a b := by
  have hlinks : (fun e : Edge ↦ e.links a b) = fun e ↦ decide (e.pair = s(a.key, b.key)) :=
    funext fun e ↦ Bool.eq_iff_iff.2 (Edge.links_iff.trans decide_eq_true_iff.symm)
  rw [Graph.edge?_eq_find?, Graph.edge?_eq_find?, ← List.head?_filter, ← List.head?_filter, hlinks,
    h.linking_eq]

end Relation

open ReportQuery.Relation

/-! ### Plans see a graph through its answers -/

namespace JoinPlan

variable {g g' : Graph}

theorem findEdge_congr (h : ∀ a b, g.edge? a b = g'.edge? a b) (included : List String)
    (table : String) : findEdge g included table = findEdge g' included table := by
  rw [findEdge, findEdge]
  refine congrArg (List.findSome? · included) ?_
  exact funext fun candidate ↦ h (.text candidate) (.text table)

/-- Graphs with the same answers place a table alike. -/
theorem place_congr (h : ∀ a b, g.edge? a b = g'.edge? a b) (default : JoinType)
    (included : List String) (t : TableSource) :
    place g default included t = place g' default included t := by
  rw [place, place, findEdge_congr h]

/-- And so they place all tables alike. -/
theorem placements_congr (h : ∀ a b, g.edge? a b = g'.edge? a b) (default : JoinType)
    (included : List String) (ts : List TableSource) :
    placements g default included ts = placements g' default included ts := by
  induction ts generalizing included with
  | nil => rfl
  | cons t ts ih => rw [placements, placements, place_congr h, ih]

/-- **Graphs with the same answers give the same plans.** -/
theorem resolve?_congr (h : ∀ a b, g.edge? a b = g'.edge? a b) (default : JoinType)
    (ts : List TableSource) : resolve? g default ts = resolve? g' default ts := by
  rcases ts with - | ⟨t, ts⟩
  · rfl
  · rw [resolve?, resolve?, ofBase, ofBase, placements_congr h]

end JoinPlan

/-! ### Compiling -/

namespace Compiler

/-- **Reordered edges compile every request alike**: to the same report, with the same statement,
plan and left-out items, or to the same error. A graph is no more than its edges, so it does not
matter where it was loaded from. -/
theorem compile_eq_of_reordered {g g' : Graph} (h : Reordered g.edges g'.edges)
    (dateFormat : String) (r : Request) :
    ({ graph := g, dateFormat } : Compiler).compile r =
      ({ graph := g', dateFormat } : Compiler).compile r := by
  rw [compile, compile]
  refine congrArg _ (funext fun _ ↦ congrArg _ (funext fun report ↦ ?_))
  rw [JoinPlan.resolve?_congr h.edge?_eq]

/-- A row of a catalog for a key of one table that refers to another. -/
def keyRow (owner referenced column : String) : Value :=
  .record [("table_name", .text owner), ("column_name", .text column),
    ("foreign_table_name", .text referenced)]

/-- Two keys of sales refer to stores, and a key of stores is listed between them. -/
def catalogRows : List Value :=
  [keyRow "sales" "stores" "store_id", keyRow "stores" "brands" "brand_id",
    keyRow "sales" "stores" "origin_id"]

/-- The same edges, with that of stores in front. -/
def groupedEdges : List Edge :=
  edgesTo "brands" "brand_id" ["stores"] ++ edgesTo "stores" "store_id" ["sales"] ++
    edgesTo "stores" "origin_id" ["sales"]

/-- A request in which each table is joined to the one before it. -/
def chainRequest : Request where
  tables := some [.name "sales", .name "stores", .name "brands"]

theorem compile_catalogRows : ∃ g compiled, Graph.ofRows catalogRows = .ok g ∧
    ({ graph := g } : Compiler).compile chainRequest = .ok compiled ∧
    ({ graph := .ofEdges groupedEdges } : Compiler).compile chainRequest = .ok compiled ∧
    compiled.sql = "SELECT *\nFROM sales\nINNER JOIN stores ON sales.store_id = stores.id\n" ++
      "INNER JOIN brands ON stores.brand_id = brands.id;" := by
  have hreordered : Reordered (edgesTo "stores" "store_id" ["sales"] ++
      edgesTo "brands" "brand_id" ["stores"] ++ edgesTo "stores" "origin_id" ["sales"])
      groupedEdges :=
    .swap [] _ (by decide)
  obtain ⟨compiled, hcompile⟩ : ∃ compiled,
      ({ graph := .ofEdges groupedEdges } : Compiler).compile chainRequest = .ok compiled :=
    ⟨_, rfl⟩
  refine ⟨.ofEdges _, compiled, rfl, ?_, hcompile, ?_⟩
  · exact (compile_eq_of_reordered hreordered _ _).trans hcompile
  · obtain rfl := Except.ok.inj hcompile
    rfl

/-- Edges that link the same two tables may not change places. -/
example : JoinPlan.resolve? (.ofEdges (edgesTo "stores" "store_id" ["sales"] ++
      edgesTo "stores" "origin_id" ["sales"])) .inner [{ name := "sales" }, { name := "stores" }] ≠
    JoinPlan.resolve? (.ofEdges (edgesTo "stores" "origin_id" ["sales"] ++
      edgesTo "stores" "store_id" ["sales"])) .inner
        [{ name := "sales" }, { name := "stores" }] := by
  decide

end Compiler

end ReportQuery
