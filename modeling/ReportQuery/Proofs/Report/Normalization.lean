import ReportQuery.Proofs.Report.Acceptance

/-!
# Normal reports

A flat report can be written down as a request again (`Report.toRequest`): its tables as sources,
its columns as names, its aggregates as aggregations with both parts, and its grouping as a list, or
not at all when it has none. Flattening that request gives the report back exactly when the report
is **normal** (`normalize_toRequest_iff`): no name is empty, and a report that aggregates and shows
columns has its grouping decided.

Flattening makes normal reports (`Request.isNormal_flat`), and the request that is written
down from a flat report of a valid request is valid (`Request.Valid.toRequest`). So flattening a
second time changes nothing, and the two requests compile to the same report under every compiler
(`Compiler.compile_toRequest`).

The grouping is where the two requests differ most. Not to ask for one, to ask for one by a blank
text, by an empty list and by a list of names are four things; the first two are decided by the
columns and aggregates, and what is decided is asked for by a list the second time.
-/

namespace ReportQuery

open Sql

/-! ### The request of a flat report -/

/-- The aggregate as an aggregation with both parts. -/
def Aggregate.toAggregation (a : Aggregate) : Aggregation where
  function := some a.function
  column := some a.column

/-- A request for the report: everything is spelled out, and no part is left to be decided, except
that a report without grouping does not ask for one. -/
def Report.toRequest (p : Report) : Request where
  tables := some (p.tables.map .source)
  joinType := p.joinType
  columns := some (p.columns.map .name)
  aggregations := some (p.aggregates.map Aggregate.toAggregation)
  filters := some p.filters
  having := p.having
  orderBy := some p.orderBy
  groupBy := p.groupBy.map .columns

/-- A report from which nothing would be left out, and whose grouping is decided. -/
structure Report.IsNormal (p : Report) : Prop where
  tables_ne_nil : p.tables ≠ []
  columns_ne_empty : ∀ c ∈ p.columns, c ≠ ""
  aggregates_ne_empty : ∀ a ∈ p.aggregates, a.column ≠ ""
  groupBy_ne_empty : ∀ names, p.groupBy = some names → ∀ c ∈ names, c ≠ ""
  /-- Columns beside aggregates are not left without a grouping. -/
  grouped : p.groupBy = none → p.aggregates = [] ∨ p.columns = []

namespace Report

variable {p : Report}

/-- The request selects the columns of the report, but for an empty name. -/
theorem selectedColumns_toRequest :
    p.toRequest.selectedColumns = p.columns.filter (· ≠ "") := by
  show (p.columns.map ColumnEntry.name).filterMap (fun c ↦ c.column?.filter (· ≠ "")) = _
  rw [List.filterMap_map, ← List.filterMap_eq_filter]
  rfl

theorem aggregates_toRequest :
    p.toRequest.aggregates = p.aggregates.filter (·.column ≠ "") := by
  show (p.aggregates.map Aggregate.toAggregation).filterMap Aggregation.aggregate? = _
  rw [List.filterMap_map, ← List.filterMap_eq_filter]
  congr 1
  funext a
  by_cases h : a.column = "" <;>
    simp [Aggregate.toAggregation, Aggregation.aggregate?, Option.guard, h]

/-- The request groups by the names that the report groups by, but for empty ones. -/
theorem explicitGroupBy_toRequest :
    p.toRequest.explicitGroupBy = p.groupBy.map fun names ↦ names.filter (· ≠ "") := by
  rw [Request.explicitGroupBy, toRequest]
  cases p.groupBy <;> rfl

/-- The flat report of the request, part by part. -/
theorem flat_toRequest : p.toRequest.flat = { p with
    columns := p.columns.filter (· ≠ "")
    aggregates := p.aggregates.filter (·.column ≠ "")
    groupBy := resolveGroupBy (p.groupBy.map fun names ↦ names.filter (· ≠ ""))
      (p.columns.filter (· ≠ "")) (!(p.aggregates.filter (·.column ≠ "")).isEmpty) } := by
  have htables : (p.tables.map TableEntry.source).map TableEntry.toSource = p.tables := by
    rw [List.map_map]
    exact List.map_id _
  rw [Request.flat, selectedColumns_toRequest, aggregates_toRequest, explicitGroupBy_toRequest]
  simp only [toRequest, Option.getD_some, htables]

/-- A grouping that is asked for is kept, less its empty names; none is decided on where there is
nothing to group. -/
theorem resolveGroupBy_eq_iff {names : Option (List String)} {columns : List String}
    {aggregates : Bool} :
    resolveGroupBy (names.map fun names ↦ names.filter (· ≠ "")) columns aggregates = names ↔
      (∀ list, names = some list → ∀ c ∈ list, c ≠ "") ∧
        (names = none → aggregates = false ∨ columns = []) := by
  cases names with
  | none =>
    cases aggregates <;> cases columns <;> simp [resolveGroupBy]
  | some list => simp [resolveGroupBy, List.filter_eq_self]

/-- **Normal reports are those that flattening gives back.** -/
theorem normalize_toRequest_iff : p.toRequest.normalize = .ok p ↔ p.IsNormal := by
  by_cases htables : p.tables = []
  · have hnone : p.toRequest.tables.getD [] = [] := by simp [toRequest, htables]
    rw [Request.normalize, hnone]
    constructor
    · intro h
      cases h
    · intro h
      exact absurd htables h.tables_ne_nil
  · have hsome : p.toRequest.tables.getD [] ≠ [] := by simp [toRequest, htables]
    rw [Request.normalize_eq_flat hsome, Except.ok.injEq, flat_toRequest]
    -- equal reports have equal parts, and each part says one thing of the names
    constructor
    · intro h
      have hcolumns : p.columns.filter (· ≠ "") = p.columns := congrArg Report.columns h
      have haggregates : p.aggregates.filter (·.column ≠ "") = p.aggregates :=
        congrArg Report.aggregates h
      have hgroupBy := congrArg Report.groupBy h
      simp only [hcolumns, haggregates] at hgroupBy
      obtain ⟨hnames, hdecided⟩ := resolveGroupBy_eq_iff.1 hgroupBy
      refine ⟨htables, ?_, ?_, hnames, ?_⟩
      · simpa [List.filter_eq_self] using hcolumns
      · simpa [List.filter_eq_self] using haggregates
      · simpa using hdecided
    · intro h
      have hcolumns : p.columns.filter (· ≠ "") = p.columns := by
        simpa [List.filter_eq_self] using h.columns_ne_empty
      have haggregates : p.aggregates.filter (·.column ≠ "") = p.aggregates := by
        simpa [List.filter_eq_self] using h.aggregates_ne_empty
      have hgroupBy : resolveGroupBy (p.groupBy.map fun names ↦ names.filter (· ≠ "")) p.columns
          (!p.aggregates.isEmpty) = p.groupBy :=
        resolveGroupBy_eq_iff.2 ⟨h.groupBy_ne_empty, by simpa using h.grouped⟩
      rw [hcolumns, haggregates, hgroupBy]

end Report

/-! ### Flattening makes normal reports -/

/-- The names of a grouping are not empty, whichever way it is written. -/
theorem Grouping.ne_empty_of_mem_names {g : Grouping} : ∀ c ∈ g.names, c ≠ "" := by
  intro c hc
  cases g with
  | columns list => simpa using (List.mem_filter.1 hc).2
  | text s =>
    obtain ⟨part, -, hpart⟩ := List.mem_filterMap.1 hc
    split at hpart
    · cases hpart
    · next hne =>
      cases hpart
      intro hempty
      have hnil : part = [] := by simpa using congrArg String.toList hempty
      exact hne (by simp [hnil])

namespace Request

variable {r : Request}

/-- **Flattening makes normal reports.** -/
theorem isNormal_flat (h : r.tables.getD [] ≠ []) : r.flat.IsNormal := by
  constructor
  case tables_ne_nil => simpa [flat] using h
  case columns_ne_empty => exact fun c hc ↦ (mem_selectedColumns_iff.1 hc).1
  case aggregates_ne_empty => exact fun a ha ↦ (mem_aggregates_iff.1 ha).1
  case groupBy_ne_empty =>
    intro names hnames
    rcases eq_or_eq_of_resolveGroupBy hnames with hexplicit | rfl
    · obtain ⟨g, -, rfl⟩ := exists_of_explicitGroupBy hexplicit
      exact Grouping.ne_empty_of_mem_names
    · exact fun c hc ↦ (mem_selectedColumns_iff.1 hc).1
  case grouped =>
    intro hnone
    change resolveGroupBy r.explicitGroupBy r.selectedColumns _ = none at hnone
    rw [resolveGroupBy.eq_def] at hnone
    split at hnone
    · cases hnone
    · show r.aggregates = [] ∨ r.selectedColumns = []
      exact Decidable.or_iff_not_imp_left.2 (by simpa using hnone)

/-! ### The request that is written down is valid -/

/-- The request for the flat report of a valid request is valid. Its grouping may be by columns that
no grouping of the first request named, and these were checked as selected columns. -/
theorem Valid.toRequest (h : r.Valid) : r.flat.toRequest.Valid := by
  constructor
  case tables_ne_nil => simpa [Report.toRequest] using h.flat.tables_ne_nil
  case tables =>
    intro entry hentry
    obtain ⟨t, ht, rfl⟩ := List.mem_map.1 hentry
    exact h.flat.tables t ht
  case columns =>
    intro entry hentry
    obtain ⟨c, hc, rfl⟩ := List.mem_map.1 hentry
    rintro _ ⟨⟩ -
    exact h.flat.columns c hc
  case aggregations =>
    intro entry hentry
    obtain ⟨a, ha, rfl⟩ := List.mem_map.1 hentry
    rintro _ ⟨⟩ -
    exact h.flat.aggregates a ha
  case filters => exact h.filters
  case having => exact h.having
  case orderBy => exact h.orderBy
  case groupBy =>
    intro g hg name hname
    obtain ⟨names, hnames, rfl⟩ := Option.map_eq_some_iff.1 hg
    exact h.flat.groupBy names hnames name (List.mem_filter.1 hname).1

end Request

/-! ### Compiling a second time -/

namespace Compiler

/-- What a request compiles to depends on its acceptance and on its flat report alone. -/
theorem compile_congr (c : Compiler) {r s : Request} (hvalidate : r.validate = s.validate)
    (hnormalize : r.normalize = s.normalize) : c.compile r = c.compile s := by
  rw [compile, compile, hvalidate, hnormalize]

/-- **Flattening is a fixed point that keeps the meaning.** The flat report of a request that
compiles, written down as a request, is accepted, has the same flat report, and compiles to the same
clauses under every compiler, with the same statement and with the same items left out. -/
theorem compile_toRequest (c : Compiler) (r : Request) {compiled : CompiledReport}
    (h : c.compile r = .ok compiled) :
    ∃ p, r.normalize = .ok p ∧ p.toRequest.validate = .ok () ∧ p.toRequest.normalize = .ok p ∧
      ∀ other : Compiler, ∃ first again, other.compile r = .ok first ∧
        other.compile p.toRequest = .ok again ∧ again = first ∧
        again.sql = first.sql ∧ again.dropped = first.dropped := by
  have hvalid := Request.valid_of_compile h
  have hnormalize := Request.normalize_eq_flat hvalid.tables_ne_nil
  have hagain : r.flat.toRequest.normalize = .ok r.flat :=
    Report.normalize_toRequest_iff.2 (Request.isNormal_flat hvalid.tables_ne_nil)
  have haccepted : r.flat.toRequest.validate = .ok () :=
    Request.validate_eq_ok_iff.2 hvalid.toRequest
  refine ⟨r.flat, hnormalize, haccepted, hagain, fun other ↦ ?_⟩
  obtain ⟨_, _, -, -, -, -, hcompile⟩ := hvalid.exists_compile other
  have hsame : other.compile r.flat.toRequest = other.compile r :=
    other.compile_congr (haccepted.trans (Request.validate_eq_ok_iff.2 hvalid).symm)
      (hagain.trans hnormalize.symm)
  exact ⟨_, _, hcompile, hsame.trans hcompile, rfl, rfl, rfl⟩

/-- A request in shorthand, with incomplete entries and a grouping by a text. -/
def shorthandRequest : Request where
  tables := some [.name "sales", .source { name := "stores", joinType := some .left }]
  columns := some [.item (some "sales.id"), .absent, .name "", .name "stores.name"]
  aggregations := some [{ function := some .sum },
    { function := some .sum, column := some "sales.total" }]
  orderBy := some [{ column := some "stores.name" }, {}]
  groupBy := some (.text " , sales.id ,, stores.name")

/-- Its grouping is a list the second time. -/
example : shorthandRequest.flat.toRequest.groupBy =
    some (.columns ["sales.id", "stores.name"]) := by
  rfl

theorem compile_shorthandRequest_toRequest :
    ∃ compiled p, ({} : Compiler).compile shorthandRequest = .ok compiled ∧
      shorthandRequest.normalize = .ok p ∧ p.toRequest.normalize = .ok p ∧
      ({} : Compiler).compile p.toRequest = .ok compiled := by
  have hvalid : shorthandRequest.Valid := Request.validate_eq_ok_iff.1 (by rfl)
  have hcompile := hvalid.compile_eq {} rfl
  obtain ⟨p, hp, -, hagain, hall⟩ := compile_toRequest {} shorthandRequest hcompile
  obtain ⟨first, again, hfirst, hsecond, rfl, -⟩ := hall {}
  exact ⟨again, p, hfirst, hp, hagain, hsecond⟩

end Compiler

end ReportQuery
