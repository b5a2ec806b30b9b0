import ReportQuery.Proofs.Catalog.Created
import ReportQuery.Proofs.JoinPlan.Placement
import ReportQuery.Proofs.Relation.RawEdge

/-!
# The graph of a catalog

The foreign keys of a catalog are read twice: as the pairs of related tables that are shown, and as
the relation graph from which joins are inferred. Both come from `Catalog.references`, one by
forgetting the columns and the other through rows in which a referenced column that is not given
becomes `id`. A catalog whose columns have names always gives that column
(`foreignColumn_ne_empty`), so the default is never taken and the graph has exactly one edge for
each reference.

What the graph then owes to the catalog is collected in `MirroredBy`: its edges in order, the pairs,
and the joins that a plan infers from it.

## Two ways that meet

The pairs are made from the references directly. The graph is made from rows, which are what another
program would be given: records with a text for each column, where an empty text stands for a column
that is not known. So the rows lose something in general, and the whole argument is that a catalog
whose columns have names loses nothing. From there on, edges and references correspond one to one
and in order, and what the graph says of its declarations (`Graph.answersFor_ofEdges`) becomes a
statement about keys.
-/

namespace ReportQuery

open ReportQuery.Relation

namespace Catalog

/-! ### Edges of foreign keys -/

/-- The edge that a foreign key of the named table makes, when it relates one column to one
column. -/
def ForeignKey.edge? (table : String) (k : ForeignKey) : Option Edge :=
  match k.columns, k.referenced with
  | [column], [key] =>
    some { owner := .text table, referenced := .text k.table, column := .text column,
           key := .text key }
  | _, _ => none

/-- The edge that says what a reference says. -/
def Reference.edge (r : Reference) : Edge where
  owner := .text r.table
  referenced := .text r.foreignTable
  column := .text r.column
  key := .text r.foreignColumn

/-- The reference of a key and the edge of the key are there together, and tell the same. -/
theorem map_edge_reference? (t : Table) (k : ForeignKey) :
    (reference? t k).map Reference.edge = k.edge? t.name := by
  obtain ⟨columns, table, referenced⟩ := k
  match columns, referenced with
  | [_], [_] => rfl
  | [], _ | _ :: _ :: _, _ | [_], [] | [_], _ :: _ :: _ => rfl

/-- The edges of the references, by table and then as the keys are listed. -/
theorem map_edge_references (c : Catalog) : c.references.map Reference.edge =
    c.sorted.flatMap fun t ↦ (c.foreignKeys t).filterMap (·.edge? t.name) := by
  rw [references, List.map_flatMap]
  congr 1
  funext t
  rw [List.map_filterMap]
  congr 1
  funext k
  exact map_edge_reference? t k

/-! ### Rows that give every column -/

/-- The columns of all tables have names. -/
def NamesColumns (c : Catalog) : Prop :=
  ∀ t ∈ c.tables, ∀ column ∈ t.columns, column.name ≠ ""

variable {c : Catalog}

theorem ne_empty_of_mem_primaryKey (h : c.NamesColumns) {table name : String}
    (hname : name ∈ c.primaryKey table) : name ≠ "" := by
  unfold primaryKey at hname
  split at hname
  next t ht =>
    obtain ⟨column, hcolumn, rfl⟩ := List.mem_map.1 hname
    exact h t (List.mem_of_find?_eq_some ht) column (List.mem_filter.1 hcolumn).1
  next => cases hname

/-- The columns that a key refers to have names once they are resolved. -/
theorem ne_empty_of_mem_resolve (h : c.NamesColumns) {k : ForeignKey} {name : String}
    (hname : name ∈ (c.resolve k).referenced) : name ≠ "" := by
  have hsaid : name ∈ k.referenced.filter (· ≠ "") → name ≠ "" := fun hmem ↦ by
    simpa using (List.mem_filter.1 hmem).2
  unfold resolve at hname
  dsimp only at hname
  split at hname
  · rcases List.mem_append.1 hname with hprimary | hmem
    · exact ne_empty_of_mem_primaryKey h hprimary
    · exact hsaid hmem
  · exact hsaid hname

/-- A reference names the column that it leads to. -/
theorem foreignColumn_ne_empty (h : c.NamesColumns) {r : Reference} (hr : r ∈ c.references) :
    r.foreignColumn ≠ "" := by
  obtain ⟨t, -, hr⟩ := List.mem_flatMap.1 hr
  obtain ⟨k, hk, hkr⟩ := List.mem_filterMap.1 hr
  obtain ⟨written, -, rfl⟩ := List.mem_map.1 (List.mem_eraseDups.1 hk)
  unfold reference? at hkr
  split at hkr
  next hreferenced =>
    cases hkr
    exact ne_empty_of_mem_resolve h (by rw [hreferenced]; exact List.mem_singleton_self _)
  next => cases hkr

/-- A row that gives its referenced column is read back as the edge of its reference. -/
theorem ofRow_toValue {r : Reference} (h : r.foreignColumn ≠ "") :
    RawEdge.ofRow r.toValue = .ok r.edge.raw := by
  simp [RawEdge.ofRow, Reference.toValue, Reference.edge, Edge.raw, Scalar.toValue, rowField,
    List.lookup_cons, Value.isGiven, h, bind, pure, Except.bind, Except.pure]

/-- Rows that give their referenced columns make the graph of their edges. -/
theorem ofRows_map_toValue {refs : List Reference} (h : ∀ r ∈ refs, r.foreignColumn ≠ "") :
    Graph.ofRows (refs.map Reference.toValue) = .ok (.ofEdges (refs.map Reference.edge)) := by
  have hrows : (refs.map Reference.toValue).mapM RawEdge.ofRow =
      .ok (refs.map (·.edge.raw)) := by
    rw [List.mapM_map]
    exact mapM_eq_ok_map fun r hr ↦ ofRow_toValue (h r hr)
  rw [Graph.ofRows, hrows]
  show Graph.ofRaw _ = _
  rw [ofRaw_eq_ok_iff, Graph.edges_ofEdges, List.map_map]
  rfl

/-- A catalog whose columns have names is loaded as the graph of its references. -/
theorem load_catalog (h : c.NamesColumns) (s : Supplies) :
    (load (.text "catalog") { s with catalog := some fun _ ↦ c.rows }).value =
      .ok (.ofEdges (c.references.map Reference.edge)) := by
  have hknown : (Vocabulary.ofWord? "catalog" : Option Source) = some .catalog := by decide
  have hrows : Graph.ofRows c.rows.value = .ok (.ofEdges (c.references.map Reference.edge)) :=
    ofRows_map_toValue fun r hr ↦ foreignColumn_ne_empty h hr
  simp only [load, hknown, Source.graph, Logged.andThen, Logged.map, hrows]

end Catalog

/-! ### Inferred joins -/

namespace JoinPlan

variable {g : Graph} {default : JoinType} {base : String} {t : TableSource}

/-- A plan for two tables infers the join of the second exactly when some edge relates them. -/
theorem infers_iff (ht : t.explicitSides? = none) (hne : t.name ≠ base) :
    (∃ step ∈ (ofBase g default base [t]).joins, step.table = t.name ∧ step.explicit = false) ↔
      ∃ e ∈ g.edges, e.Relates base t.name := by
  have hrelated : findEdge g [base] t.name = none ↔ ∀ e ∈ g.edges, ¬ e.Relates base t.name := by
    rw [findEdge_eq_none_iff, List.forall_mem_singleton]
  -- the graph is asked once, since FROM is the base table alone
  rcases hfind : findEdge g [base] t.name with - | e
  · have hplace : place g default [base] t = .skipped ⟨t.name, .unrelated [base]⟩ := by
      simp [place, ht, hne, hfind]
    have hnone := hrelated.1 hfind
    simp only [ofBase, placements, hplace, List.filterMap_cons, Placement.step?, List.filterMap_nil,
      List.not_mem_nil, false_and, exists_false, false_iff, not_exists, not_and]
    exact hnone
  · have hplace : place g default [base] t =
        .joined ⟨t.name, e.ownerSide, e.referencedSide, t.joinType.getD default, false⟩ := by
      simp [place, ht, hne, hfind]
    have hsome : ∃ e ∈ g.edges, e.Relates base t.name := by
      by_contra hnot
      rw [hrelated.2 fun e he hrelates ↦ hnot ⟨e, he, hrelates⟩] at hfind
      cases hfind
    refine iff_of_true ?_ hsome
    simp only [ofBase, placements, hplace, List.filterMap_cons, Placement.step?, List.filterMap_nil]
    exact ⟨_, List.mem_singleton_self _, rfl, rfl⟩

end JoinPlan

namespace Catalog

variable {c : Catalog}

/-- The edges of the references relate the tables whose names are paired. -/
theorem exists_edge_relates_iff {a b : String} :
    (∃ e ∈ c.references.map Reference.edge, e.Relates a b) ↔
      (a, b) ∈ c.relatedTables.value ∨ (b, a) ∈ c.relatedTables.value := by
  have hpair : ∀ x y : String, (x, y) ∈ c.relatedTables.value ↔
      ∃ r ∈ c.references, r.table = x ∧ r.foreignTable = y := fun x y ↦ by
    simp only [relatedTables, referencesLogged, Logged.map, List.mem_map, Prod.mk.injEq]
  have hrelates : ∀ r : Reference, r.edge.Relates a b ↔
      (r.table = a ∧ r.foreignTable = b) ∨ (r.table = b ∧ r.foreignTable = a) := fun r ↦ by
    simp only [Edge.Relates, Reference.edge, Scalar.text.injEq]
  simp only [hpair, List.mem_map, exists_exists_and_eq_and, hrelates, and_or_left, exists_or]

/-! ### What the graph owes to the catalog -/

/-- The graph says what the catalog shows: an edge for each key that relates one column to one
column, by the names of the tables, the same pairs, and a join between two tables exactly when they
are a pair. -/
structure MirroredBy (c : Catalog) (g : Graph) : Prop where
  edges_eq : ∃ ts : List Table, ts.Perm c.tables ∧ ts.Pairwise (fun s t ↦ s.name < t.name) ∧
    g.edges = ts.flatMap fun t ↦ (c.foreignKeys t).filterMap (·.edge? t.name)
  pairs_eq : g.relatedPairs = c.relatedTables.value.map fun (a, b) ↦ (.text a, .text b)
  joins_iff : ∀ (default : JoinType) (first t : TableSource),
    t.explicitSides? = none → t.name ≠ first.name →
      ∃ plan, JoinPlan.resolve? g default [first, t] = some plan ∧
        ((∃ step ∈ plan.joins, step.table = t.name ∧ step.explicit = false) ↔
          (first.name, t.name) ∈ c.relatedTables.value ∨
            (t.name, first.name) ∈ c.relatedTables.value)

/-- The table of a definition, with its keys as the catalog tells them: in the order of the listing,
and each once. -/
structure Reflects (c : Catalog) (d : TableDefinition) (t : Table) : Prop where
  name_eq : t.name = d.name
  columns_eq : t.columns.map (·.name) = d.columnNames
  foreignKeys_eq : c.foreignKeys t = (d.listing.map c.resolve).eraseDups
  declared_eq : d.WritesOutKeys → c.foreignKeys t = d.foreignKeys.eraseDups

/-- A key that is written out says itself what it refers to. -/
theorem resolve_eq_self {k : ForeignKey} (h : k.isSpelledOut = true) : c.resolve k = k := by
  obtain ⟨columns, table, referenced⟩ := k
  rw [ForeignKey.isSpelledOut, Bool.and_eq_true, List.all_eq_true] at h
  obtain ⟨hsome, hplain⟩ := h
  have hnamed : ∀ name ∈ referenced, name ≠ "" := fun name hname ↦ by
    have := hplain name (List.mem_append_right _ hname)
    simp only [ForeignKey.isPlainName, Bool.and_eq_true, decide_eq_true_eq] at this
    exact this.1
  have hsaid : referenced.filter (· ≠ "") = referenced :=
    List.filter_eq_self.2 fun name hname ↦ by simpa using hnamed name hname
  match referenced, hsome with
  | first :: rest, _ =>
    have hfirst : ¬ first.isEmpty = true := by simpa using hnamed first (by simp)
    simp only [resolve, List.headD_cons, if_neg hfirst, hsaid]

/-- A table that is created reflects its definition. -/
theorem reflects_of_table_eq_ok {d : TableDefinition} {t : Table} (h : d.table = .ok t) :
    c.Reflects d t := by
  obtain ⟨hname, hcolumns, hkeys⟩ := TableDefinition.table_eq_ok h
  have hlisted : c.foreignKeys t = (d.listing.map c.resolve).eraseDups := by rw [foreignKeys, hkeys]
  refine ⟨hname, hcolumns, hlisted, fun hwritten ↦ ?_⟩
  have hself : d.foreignKeys.map c.resolve = d.foreignKeys.map id :=
    List.map_congr_left fun k hk ↦
      resolve_eq_self (Bool.and_eq_true_iff.1 (hwritten.2 k hk)).1
  rw [hlisted, hwritten.listing_eq, hself, List.map_id]

/-- The graph of the references mirrors the catalog. -/
theorem mirroredBy_ofEdges (hnames : (c.tables.map (·.name)).Nodup) :
    c.MirroredBy (.ofEdges (c.references.map Reference.edge)) where
  edges_eq := ⟨c.sorted, c.sorted_perm, pairwise_sorted_lt hnames, c.map_edge_references⟩
  pairs_eq := by
    simp only [Graph.relatedPairs, Graph.edges_ofEdges, relatedTables, referencesLogged, Logged.map,
      List.map_map]
    rfl
  joins_iff _ _ _ ht hne := ⟨_, rfl, (JoinPlan.infers_iff ht hne).trans exists_edge_relates_iff⟩

/-- **The compiler relates what the catalog shows.** A database whose columns have names holds the
tables of its definitions with their keys, and its graph is loaded and mirrors the catalog. -/
theorem load_ofDefinitions_mirrors {ds : List TableDefinition} (s : Supplies)
    (h : ofDefinitions ds = .ok c) (hcolumns : ∀ d ∈ ds, "" ∉ d.columnNames) :
    List.Forall₂ c.Reflects ds c.tables ∧
    ∃ g, (load (.text "catalog") { s with catalog := some fun _ ↦ c.rows }).value = .ok g ∧
      c.MirroredBy g := by
  obtain ⟨hnames, htables⟩ := ofDefinitions_eq_ok h
  have hnamed : c.NamesColumns := by
    -- a table has the columns of its definition, so the names are carried over pair by pair
    have hall : List.Forall₂ (fun t (_ : TableDefinition) ↦
        (∀ column ∈ t.columns, column.name ≠ "") ∧ True) c.tables ds := by
      refine .flip (((List.forall₂_and_left _ _).2 ⟨hcolumns, htables⟩).imp ?_)
      rintro d t ⟨hd, ht⟩
      refine ⟨fun column hcolumn hempty ↦ hd ?_, trivial⟩
      rw [← (TableDefinition.table_eq_ok ht).2.1, ← hempty]
      exact List.mem_map_of_mem hcolumn
    exact ((List.forall₂_and_left _ _).1 hall).1
  exact ⟨htables.imp fun _ _ ↦ reflects_of_table_eq_ok, _, load_catalog hnamed s,
    mirroredBy_ofEdges hnames⟩

/-! ### Keys that name no column -/

/-- Stores that belong to a brand and to an owner, by keys that name no referenced column. -/
def franchise : List TableDefinition := [
  { name := "brands", columns := [("id", "INTEGER PRIMARY KEY")] },
  { name := "stores"
    columns := [("brand_id", "INTEGER"), ("owner_id", "INTEGER")]
    foreignKeys := [⟨["brand_id"], "brands", []⟩, ⟨["owner_id"], "brands", []⟩] }]

/-- The database of the stores lists the latest of their keys first. -/
def franchiseCatalog : Catalog where
  tables := [
    { name := "brands", columns := [{ name := "id", type := "INTEGER", isPrimary := true }] },
    { name := "stores"
      columns := [
        { name := "brand_id", type := "INTEGER" }, { name := "owner_id", type := "INTEGER" }]
      foreignKeys := [⟨["owner_id"], "brands", []⟩, ⟨["brand_id"], "brands", []⟩] }]

theorem ofDefinitions_franchise : ofDefinitions franchise = .ok franchiseCatalog := by
  decide +kernel

theorem load_franchise_mirrors : List.Forall₂ franchiseCatalog.Reflects franchise
      franchiseCatalog.tables ∧
    ∃ g, (load (.text "catalog") { catalog := some fun _ ↦ franchiseCatalog.rows }).value = .ok g ∧
      franchiseCatalog.MirroredBy g :=
  load_ofDefinitions_mirrors {} ofDefinitions_franchise (by decide)

/-- The edges of keys that name no referenced column are not in the order of declaration. -/
theorem load_franchise_latest_first : ∃ c g, ofDefinitions franchise = .ok c ∧
    (load (.text "catalog") { catalog := some fun _ ↦ c.rows }).value = .ok g ∧
    g.edges.map Edge.ownerSide = ["stores.owner_id", "stores.brand_id"] ∧
    g.edges ≠ franchise.flatMap fun d ↦
      (d.foreignKeys.map c.resolve).filterMap (·.edge? d.name) := by
  have hnamed : franchiseCatalog.NamesColumns := by
    rw [NamesColumns]
    decide
  have hreferences : franchiseCatalog.references =
      [⟨"stores", "owner_id", "brands", "id"⟩, ⟨"stores", "brand_id", "brands", "id"⟩] := by
    rw [references, sorted, List.mergeSort_of_pairwise (by decide +kernel)]
    decide +kernel
  refine ⟨franchiseCatalog, _, ofDefinitions_franchise, load_catalog hnamed {}, ?_, ?_⟩
  · rw [Graph.edges_ofEdges, hreferences]
    decide +kernel
  · intro h
    have hsides := congrArg (List.map Edge.ownerSide) h
    rw [Graph.edges_ofEdges, hreferences] at hsides
    revert hsides
    decide +kernel

end Catalog

end ReportQuery
