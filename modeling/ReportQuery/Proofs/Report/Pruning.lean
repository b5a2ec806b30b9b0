import ReportQuery.Proofs.Report.Accounting

/-!
# What is left out had no effect

The items that a compiled report leaves out can be left out of the request as well, and the
statement stays the same. `Compiler.prune` takes them out of a request: each table whose own record
skips it, each ordering that is not shown, and the connectives. `compile_prune` says that what is
left compiles to the same clauses, with nothing left out any more.

That the tables can go is a fact about two passes over lists of different length and is proved for
join plans (`JoinPlan.ofBase_kept`). The rest is that no clause reads what goes: the columns, the
aggregates and the grouping of a request depend on neither its tables nor its orderings, and a
condition does not depend on the connective of its filter.

## Why pruning is by position

The pruned request is not the request without the names that were left out. A name may be skipped at
one place and joined at another, and only the first of the two entries goes. The statement is the
same because every clause is, and the list of what is left out is empty afterwards because each of
its four kinds has lost its cause.
-/

namespace ReportQuery

open Sql

namespace Compiler

/-! ### Taking items out of a request -/

/-- The tables that stay: the first, and each later one that its own record joins. -/
def keptTables (c : Compiler) (r : Request) : List TableEntry :=
  (r.tables.getD []).take 1 ++ JoinPlan.kept ((r.tables.getD []).drop 1) (c.records r)

/-- The tables that go. -/
def skippedTables (c : Compiler) (r : Request) : List TableEntry :=
  JoinPlan.leftOut ((r.tables.getD []).drop 1) (c.records r)

/-- The orderings that go. -/
def ignoredOrderings (r : Request) : List OrderEntry :=
  (r.orderBy.getD []).filter fun o ↦ !o.isShown r.selectedColumns

/-- The request without the items that its statement leaves out. -/
def prune (c : Compiler) (r : Request) : Request where
  tables := some (c.keptTables r)
  joinType := r.joinType
  columns := r.columns
  aggregations := r.aggregations
  filters := r.filters.map fun filters ↦ filters.map fun f ↦ { f with connective := .and }
  having := r.having
  orderBy := r.orderBy.map fun entries ↦ entries.filter (OrderEntry.isShown r.selectedColumns)
  groupBy := r.groupBy

variable {c : Compiler} {r : Request}

/-- The records of a request are those of one pass over its tables. -/
theorem records_eq {first : TableEntry} {rest : List TableEntry}
    (h : r.tables.getD [] = first :: rest) : c.records r =
      JoinPlan.placements c.graph r.joinType [first.toSource.name]
        (rest.map TableEntry.toSource) := by
  rw [records, h]

/-- The pruned request keeps the base and the tables that are joined. -/
theorem tables_prune {first : TableEntry} {rest : List TableEntry}
    (h : r.tables.getD [] = first :: rest) : (c.prune r).tables.getD [] =
      first :: JoinPlan.kept rest (c.records r) := by
  show c.keptTables r = _
  rw [keptTables, h]
  rfl

/-- The pruned request orders by what is shown. -/
theorem orderBy_prune : (c.prune r).orderBy.getD [] =
    (r.orderBy.getD []).filter (OrderEntry.isShown r.selectedColumns) := by
  rw [prune]
  cases r.orderBy <;> rfl

/-- The pruned request has all filters, combined as they are written. -/
theorem filters_prune : (c.prune r).filters.getD [] =
    (r.filters.getD []).map fun f ↦ { f with connective := .and } := by
  rw [prune]
  cases r.filters <;> rfl

/-! ### The pruned request is valid -/

/-- No rule asks for the connective of a filter. -/
theorem valid_with_connective {f : Filter} (h : f.Valid) (connective : Connective) :
    Filter.Valid { f with connective } :=
  ⟨h.column, h.taggedColumn, h.list⟩

/-- What is left of a valid request is valid. -/
theorem valid_prune (h : r.Valid) : (c.prune r).Valid := by
  obtain ⟨first, rest, htables⟩ := List.exists_cons_of_ne_nil h.tables_ne_nil
  constructor
  case tables_ne_nil => simp [tables_prune htables]
  case tables =>
    intro t ht
    rw [tables_prune htables] at ht
    refine h.tables t ?_
    rw [htables]
    -- what is kept was asked for
    rcases List.mem_cons.1 ht with rfl | ht
    · exact List.mem_cons_self
    · exact List.mem_cons_of_mem _ (JoinPlan.mem_of_mem_kept ht)
  case columns => exact h.columns
  case aggregations => exact h.aggregations
  case filters =>
    intro f hf
    rw [filters_prune] at hf
    obtain ⟨g, hg, rfl⟩ := List.mem_map.1 hf
    exact valid_with_connective (h.filters g hg) _
  case having => exact h.having
  case orderBy =>
    intro o ho
    rw [orderBy_prune] at ho
    exact h.orderBy o (List.mem_filter.1 ho).1
  case groupBy => exact h.groupBy

/-! ### The same clauses -/

/-- A condition does not depend on the connective of its filter. -/
theorem conditions_prune (dateFormat : String) :
    WhereClause.build ((c.prune r).filters.getD []) dateFormat =
      WhereClause.build (r.filters.getD []) dateFormat := by
  rw [WhereClause.build, filters_prune, List.map_map]
  rfl

/-- Orderings that are not shown are not written. -/
theorem orderings_prune : OrderByClause.build ((c.prune r).orderBy.getD []) r.selectedColumns =
    OrderByClause.build (r.orderBy.getD []) r.selectedColumns := by
  have hitems : (OrderByClause.build ((c.prune r).orderBy.getD []) r.selectedColumns).items =
      (OrderByClause.build (r.orderBy.getD []) r.selectedColumns).items := by
    rw [items_build, items_build, orderBy_prune, List.filter_filter]
    simp only [Bool.and_self]
  exact congrArg OrderByClause.mk hitems

/-- Of the pruned request nothing is left out, under a plan that skips nothing. -/
theorem ofReport_prune {plan : JoinPlan} (h : plan.skipped = []) :
    Dropped.ofReport (c.prune r).flat plan = [] := by
  have horder : droppedOrder (c.prune r).flat.orderBy (c.prune r).flat.columns = [] := by
    change droppedOrder ((c.prune r).orderBy.getD []) r.selectedColumns = []
    rw [droppedOrder_eq, orderBy_prune, List.filter_filter, List.filter_eq_nil_iff]
    simp
  have hfilters : ignoredConnectives (c.prune r).flat.filters = [] := by
    change ignoredConnectives ((c.prune r).filters.getD []) = []
    rw [ignoredConnectives, filters_prune, List.filter_eq_nil_iff]
    intro f hf
    obtain ⟨g, -, rfl⟩ := List.mem_map.1 (List.mem_of_mem_drop hf)
    simp
  rw [Dropped.ofReport, h, horder, hfilters]
  rfl

/-- No clause changes. -/
theorem assemble_prune (dateFormat : String) (plan : JoinPlan) :
    assemble dateFormat (c.prune r).flat { plan with skipped := [] } =
      { assemble dateFormat r.flat plan with
        plan := { plan with skipped := [] }
        dropped := [] } := by
  have hfilter : WhereClause.build (c.prune r).flat.filters dateFormat =
      WhereClause.build r.flat.filters dateFormat := conditions_prune dateFormat
  have horder : OrderByClause.build (c.prune r).flat.orderBy (c.prune r).flat.columns =
      OrderByClause.build r.flat.orderBy r.flat.columns := orderings_prune
  rw [assemble, hfilter, horder, ofReport_prune rfl]
  rfl

/-- **What a statement leaves out has no effect on it.** A request that compiles still compiles
without the items that were left out, to the same clauses and the same statement, and then nothing
is left out. The tables and orderings that go are those that the compiled report names, in order. -/
theorem compile_prune (c : Compiler) (r : Request) {compiled : CompiledReport}
    (h : c.compile r = .ok compiled) :
    ∃ pruned, c.compile (c.prune r) = .ok pruned ∧
      pruned.sql = compiled.sql ∧ pruned.dropped = [] ∧
      pruned.plan = { compiled.plan with skipped := [] } ∧
      (c.skippedTables r).map (·.toSource.name) = compiled.plan.skipped.map (·.table) ∧
      (ignoredOrderings r).map Dropped.ofOrder = compiled.droppedOf .ignoredOrderBy := by
  obtain ⟨hvalid, first, rest, htables, rfl⟩ := Request.exists_of_compile h
  have hpruned := (valid_prune (c := c) hvalid).compile_eq c (tables_prune htables)
  have hplan : JoinPlan.ofBase c.graph (c.prune r).joinType first.toSource.name
      ((JoinPlan.kept rest (c.records r)).map TableEntry.toSource) =
      { JoinPlan.ofBase c.graph r.joinType first.toSource.name (rest.map TableEntry.toSource) with
        skipped := [] } := by
    rw [JoinPlan.map_kept, records_eq htables]
    exact JoinPlan.ofBase_kept _ _
  rw [hplan, assemble_prune] at hpruned
  refine ⟨_, hpruned, rfl, rfl, rfl, ?_, ?_⟩
  · have hnames : (c.skippedTables r).map (·.toSource.name) =
        (JoinPlan.leftOut (rest.map TableEntry.toSource) (c.records r)).map (·.name) := by
      rw [skippedTables, htables, ← JoinPlan.map_leftOut, List.map_map]
      rfl
    rw [hnames, records_eq htables, JoinPlan.names_leftOut]
    rfl
  · exact (droppedOf_assemble c.dateFormat r.flat _).2.1.symm

/-- Of three mentions of one table, the first is unrelated and the third a duplicate. -/
example : (storeCompiler.prune mixedRequest).tables = some [.name "brands",
    .source { name := "stores", on := some ⟨some "brands.id", some "stores.brand_id"⟩ },
    .name "sales"] := by
  rfl

theorem compile_prune_mixedRequest :
    ∃ compiled pruned, storeCompiler.compile mixedRequest = .ok compiled ∧
      storeCompiler.compile (storeCompiler.prune mixedRequest) = .ok pruned ∧
      pruned.sql = compiled.sql ∧ pruned.dropped = [] := by
  have hcompile := mixedRequest_valid.compile_eq storeCompiler rfl
  obtain ⟨pruned, hpruned, hsql, hdropped, -⟩ :=
    compile_prune storeCompiler mixedRequest hcompile
  exact ⟨_, pruned, hcompile, hpruned, hsql, hdropped⟩

end Compiler

end ReportQuery
