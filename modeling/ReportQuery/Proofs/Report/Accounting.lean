import ReportQuery.Proofs.JoinPlan.Pruning
import ReportQuery.Proofs.Report.Acceptance

/-!
# Nothing is lost silently or reported twice

A statement leaves out some of what its request asks for, and the compiled report says what. This
file balances the two: `CompiledReport.AccountsFor` says of every table, every ordering and every
filter of a request where it went, and `compile_accountsFor` that a compiled report accounts for its
request, whatever the graph.

The tables are balanced by the records of the join plan, of which there is one for each table after
the first, either a join or an item left out. The orderings are split by one condition,
`OrderEntry.isShown`, which is stated without the clause that applies it. No filter is left out; it
is only a connective that is. The four kinds of items lie in three runs of one list, so the items of
one kind are counted run by run (`filter_kind_of_forall`).

## What an account is

An account is not a list of what is missing but a split of what was asked for. For every part of the
request there are two runs, one that is written and one that is reported, and together they are the
part, in its order. So the balance cannot be met by leaving a thing out of both runs or by putting
it into both, and it fixes the order of the reported items as well.
-/

namespace ReportQuery

open Sql

/-! ### Orderings that are written -/

/-- The entry names a column that is among the selected ones. -/
def OrderEntry.isShown (columns : List String) (o : OrderEntry) : Bool :=
  o.column.any fun name ↦ name ≠ "" ∧ name ∈ columns

/-- What an entry asks for: its column, in its own direction. -/
def OrderEntry.item (o : OrderEntry) : OrderItem :=
  ⟨o.column.getD "", o.direction⟩

namespace Sql

/-- An entry gives an ordering exactly when its column is shown. -/
theorem ofEntry?_eq (columns : List String) (o : OrderEntry) :
    OrderItem.ofEntry? columns o = if o.isShown columns then some o.item else none := by
  rw [OrderItem.ofEntry?, OrderEntry.isShown, OrderEntry.item]
  rcases o.column with - | name
  · rfl
  · by_cases h : name ≠ "" ∧ name ∈ columns <;> simp [h]

/-- The clause has the entries that are shown, in order. -/
theorem items_build (entries : List OrderEntry) (columns : List String) :
    (OrderByClause.build entries columns).items =
      (entries.filter (OrderEntry.isShown columns)).map OrderEntry.item := by
  show entries.filterMap (OrderItem.ofEntry? columns) = _
  induction entries with
  | nil => rfl
  | cons o entries ih =>
    rw [List.filterMap_cons, ofEntry?_eq]
    cases h : o.isShown columns <;> simp [h, ih]

/-- And the other entries are left out, in order. -/
theorem droppedOrder_eq (entries : List OrderEntry) (columns : List String) :
    droppedOrder entries columns = entries.filter fun o ↦ !o.isShown columns := by
  simp only [droppedOrder, ofEntry?_eq]
  congr 1
  funext o
  cases o.isShown columns <;> rfl

end Sql

/-! ### Items of one kind -/

namespace Dropped

/-- A run of items of one kind has all its items of that kind and none of any other. -/
theorem filter_kind_of_forall {items : List Dropped} {kind : DroppedKind}
    (h : ∀ d ∈ items, d.kind = kind) (other : DroppedKind) :
    items.filter (·.kind = other) = if kind = other then items else [] := by
  split
  · next heq => exact List.filter_eq_self.2 fun d hd ↦ by simp [h d hd, heq]
  · next hne => exact List.filter_eq_nil_iff.2 fun d hd ↦ by simp [h d hd, hne]

/-- What is left out of an ordering is of the one kind. -/
theorem kind_ofOrder {entries : List OrderEntry} :
    ∀ d ∈ entries.map ofOrder, d.kind = .ignoredOrderBy := by
  simp [ofOrder]

/-- What is left out of a filter is of the other kind. -/
theorem kind_ofFilter {filters : List Filter} :
    ∀ d ∈ filters.map ofFilter, d.kind = .ignoredFilterLogic := by
  simp [ofFilter]

/-- A skipped table is an item of one of the two kinds of tables. -/
theorem kind_ofSkipped {skipped : List SkippedTable} :
    ∀ d ∈ skipped.map ofSkipped, d.kind = .skippedTable ∨ d.kind = .duplicateTable := by
  intro d hd
  obtain ⟨⟨table, reason⟩, -, rfl⟩ := List.mem_map.1 hd
  cases reason with
  | duplicate => exact .inr rfl
  | unrelated included => exact .inl rfl

/-- A skipped table is left out as nothing but a table. -/
theorem filter_kind_ofSkipped {skipped : List SkippedTable} {kind : DroppedKind}
    (hskipped : kind ≠ .skippedTable) (hduplicate : kind ≠ .duplicateTable) :
    (skipped.map ofSkipped).filter (·.kind = kind) = [] := by
  refine List.filter_eq_nil_iff.2 fun d hd ↦ ?_
  rcases kind_ofSkipped d hd with h | h
  · simpa [h] using hskipped.symm
  · simpa [h] using hduplicate.symm

/-- Every skipped table is counted under one of the two kinds. -/
theorem length_kinds_ofSkipped (skipped : List SkippedTable) :
    ((skipped.map ofSkipped).filter (·.kind = .skippedTable)).length +
        ((skipped.map ofSkipped).filter (·.kind = .duplicateTable)).length = skipped.length := by
  induction skipped with
  | nil => rfl
  | cons s skipped ih =>
    obtain ⟨table, reason⟩ := s
    cases reason with
    | duplicate =>
      simp only [List.map_cons, List.filter_cons, ofSkipped, reduceCtorEq, decide_false,
        Bool.false_eq_true, if_false, decide_true, if_true, List.length_cons]
      omega
    | unrelated included =>
      simp only [List.map_cons, List.filter_cons, ofSkipped, reduceCtorEq, decide_false,
        Bool.false_eq_true, if_false, decide_true, if_true, List.length_cons]
      omega

end Dropped

/-! ### The account -/

/-- What a placement leaves out. -/
def JoinPlan.Placement.dropped? (p : JoinPlan.Placement) : Option Dropped :=
  p.skipped?.map Dropped.ofSkipped

/-- Where every part of a request went, given the records of its tables after the first and the
columns that are selected. -/
structure CompiledReport.AccountsFor (compiled : CompiledReport) (r : Request)
    (columns : List String) (dateFormat : String) (records : List JoinPlan.Placement) : Prop where
  /-- The first table is the base, and each later one has one record, in order. -/
  tables : (r.tables.getD []).map (·.toSource.name) =
    compiled.plan.base :: records.map JoinPlan.Placement.table
  /-- The joins are those of the records, in order. -/
  joins : compiled.plan.joins = records.filterMap JoinPlan.Placement.step?
  /-- The base, the joins and the two kinds of tables left out make up all tables. -/
  length_tables : 1 + compiled.plan.joins.length + (compiled.droppedOf .skippedTable).length +
    (compiled.droppedOf .duplicateTable).length = (r.tables.getD []).length
  /-- Every ordering by a selected column is written, in order and in its own direction. -/
  orderings : compiled.orderBy.items =
    ((r.orderBy.getD []).filter (OrderEntry.isShown columns)).map OrderEntry.item
  /-- Every other ordering is left out, in order. -/
  ignored_orderings : compiled.droppedOf .ignoredOrderBy =
    ((r.orderBy.getD []).filter fun o ↦ !o.isShown columns).map Dropped.ofOrder
  /-- Every filter is one condition, in order. -/
  filters : compiled.filter.conditions = (r.filters.getD []).map (Condition.ofFilter dateFormat)
  /-- The connective of a filter is left out when the filter is not the first and asks for OR. -/
  ignored_connectives : compiled.droppedOf .ignoredFilterLogic =
    (((r.filters.getD []).drop 1).filter (·.connective = .or)).map Dropped.ofFilter
  /-- Nothing else is left out, and tables come before orderings and these before filters. -/
  dropped : compiled.dropped = records.filterMap JoinPlan.Placement.dropped? ++
    compiled.droppedOf .ignoredOrderBy ++ compiled.droppedOf .ignoredFilterLogic
  /-- The conditions and orderings are all that is written in their clauses. -/
  written : compiled.parts.filter = conjunction compiled.filter.conditions ∧
    compiled.parts.orderBy = ", ".intercalate (compiled.orderBy.items.map OrderItem.sql)

namespace Compiler

/-- The records of the tables after the first. -/
def records (c : Compiler) (r : Request) : List JoinPlan.Placement :=
  match r.tables.getD [] with
  | [] => []
  | first :: rest =>
    JoinPlan.placements c.graph r.joinType [first.toSource.name] (rest.map TableEntry.toSource)

/-- A clause that is left out when it has no element is written as its elements. -/
theorem ite_isEmpty_intercalate {α : Type} (separator : String) (items : List α)
    (sql : α → String) :
    (if !items.isEmpty then separator.intercalate (items.map sql) else "") =
      separator.intercalate (items.map sql) := by
  cases items <;> rfl

/-- The items of one kind lie in the run of the tables, of the orderings or of the filters. -/
theorem droppedOf_assemble_eq (dateFormat : String) (p : Report) (plan : JoinPlan)
    (kind : DroppedKind) : (assemble dateFormat p plan).droppedOf kind =
      (plan.skipped.map Dropped.ofSkipped).filter (·.kind = kind) ++
        (if DroppedKind.ignoredOrderBy = kind
          then (droppedOrder p.orderBy p.columns).map Dropped.ofOrder else []) ++
        (if DroppedKind.ignoredFilterLogic = kind
          then (ignoredConnectives p.filters).map Dropped.ofFilter else []) := by
  rw [← Dropped.filter_kind_of_forall Dropped.kind_ofOrder,
    ← Dropped.filter_kind_of_forall Dropped.kind_ofFilter, ← List.filter_append,
    ← List.filter_append]
  rfl

/-- The items left out by a report, kind by kind. -/
theorem droppedOf_assemble (dateFormat : String) (p : Report) (plan : JoinPlan) :
    ((assemble dateFormat p plan).droppedOf .skippedTable).length +
        ((assemble dateFormat p plan).droppedOf .duplicateTable).length = plan.skipped.length ∧
      (assemble dateFormat p plan).droppedOf .ignoredOrderBy =
        (p.orderBy.filter fun o ↦ !o.isShown p.columns).map Dropped.ofOrder ∧
      (assemble dateFormat p plan).droppedOf .ignoredFilterLogic =
        (ignoredConnectives p.filters).map Dropped.ofFilter := by
  refine ⟨?_, ?_, ?_⟩
  · simpa [droppedOf_assemble_eq] using Dropped.length_kinds_ofSkipped plan.skipped
  · rw [droppedOf_assemble_eq, Dropped.filter_kind_ofSkipped (by decide) (by decide),
      droppedOrder_eq]
    simp
  · rw [droppedOf_assemble_eq, Dropped.filter_kind_ofSkipped (by decide) (by decide)]
    simp

/-- **A compiled report accounts for its request.** -/
theorem compile_accountsFor (c : Compiler) (r : Request) {compiled : CompiledReport}
    (h : c.compile r = .ok compiled) :
    ∃ p records, r.normalize = .ok p ∧
      compiled.AccountsFor r p.columns c.dateFormat records := by
  obtain ⟨hvalid, first, rest, htables, rfl⟩ := Request.exists_of_compile h
  obtain ⟨hlength, horder, hconnectives⟩ := droppedOf_assemble c.dateFormat r.flat
    (.ofBase c.graph r.joinType first.toSource.name (rest.map TableEntry.toSource))
  have hrecords : c.records r = JoinPlan.placements c.graph r.joinType [first.toSource.name]
      (rest.map TableEntry.toSource) := by
    rw [records, htables]
  refine ⟨_, c.records r, Request.normalize_eq_flat hvalid.tables_ne_nil, ?_⟩
  constructor
  case tables =>
    rw [htables, hrecords, JoinPlan.map_table_placements]
    simp only [List.map_cons, List.map_map]
    rfl
  case joins =>
    rw [hrecords]
    rfl
  case length_tables =>
    -- the base has no record of its own
    have hcount := JoinPlan.length_joined_add_skipped (c.records r)
    have hall : (c.records r).length = rest.length := by
      rw [hrecords, JoinPlan.length_placements, List.length_map]
    rw [hall, hrecords] at hcount
    change 1 + (List.filterMap _ _).length + _ + _ = _
    rw [Nat.add_assoc, hlength, htables, List.length_cons]
    simp only [JoinPlan.ofBase]
    omega
  case orderings => exact items_build _ _
  case ignored_orderings => exact horder
  case filters => rfl
  case ignored_connectives => exact hconnectives
  case dropped =>
    rw [horder, hconnectives, hrecords, ← droppedOrder_eq]
    simp only [assemble, Dropped.ofReport, JoinPlan.ofBase, List.map_filterMap]
    rfl
  case written =>
    exact ⟨ite_isEmpty_intercalate _ _ _, ite_isEmpty_intercalate _ _ _⟩

end Compiler

/-- A request with an item of every kind to leave out. The table of sales comes three times: it is
unrelated to what is in FROM before it, related once the stores are there, and then a duplicate.
One ordering is by a column that is not selected, and both filters ask for OR, of which the first
has nothing in front of it. -/
def mixedRequest : Request where
  tables := some [.name "brands", .name "sales",
    .source { name := "stores", on := some ⟨some "brands.id", some "stores.brand_id"⟩ },
    .name "sales", .name "sales"]
  columns := some [.name "stores.name"]
  filters := some [
    { column := "stores.id", value := .scalar (.int 1), connective := .or },
    { column := "stores.name", value := .scalar (.text "centro"), connective := .or }]
  orderBy := some [
    { column := some "stores.id" }, { column := some "stores.name", direction := .descending }]

/-- A compiler that knows of one relation. -/
def storeCompiler : Compiler where
  graph := .ofEdges [JoinPlan.storeKey]

theorem mixedRequest_valid : mixedRequest.Valid :=
  Request.validate_eq_ok_iff.1 (by rfl)

theorem mixedRequest_accountsFor :
    ∃ compiled, storeCompiler.compile mixedRequest = .ok compiled ∧
      ∃ p records, mixedRequest.normalize = .ok p ∧
        compiled.AccountsFor mixedRequest p.columns storeCompiler.dateFormat records := by
  have hcompile := mixedRequest_valid.compile_eq storeCompiler rfl
  exact ⟨_, hcompile, storeCompiler.compile_accountsFor mixedRequest hcompile⟩

end ReportQuery
