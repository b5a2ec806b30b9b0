import ReportQuery.Report.Compiled

/-!
# Accepted requests

Validation lists the violations of a request rule by rule. This file says the same by conditions
on the parts of the request: `Request.Valid` holds of a request exactly when validation accepts it
(`validate_eq_ok_iff`). What is embedded into a statement is then read off the fields of `Valid`,
and no proof about statements looks at a list of violations.

A flat report is made of parts of its request. `Report.Valid` collects what the flat report of a
valid request satisfies, and `Valid.exists_compile` says that a valid request compiles, to the
clauses of such a report. The other way round, `exists_of_compile` says that whatever compiles is
valid, and of which clauses it is made.

## Why there are two notions

A valid request may still hold things that its statement leaves out: aggregations with a part
missing, empty names, a grouping text that is blank. The flat report has none of these. So
`Request.Valid` speaks of what was sent and is compared with the rules, and `Report.Valid` speaks of
what is built from, and is the hypothesis of every theorem about a clause. Between the two stand the
lemmas that say where the names of a flat report come from.
-/

namespace ReportQuery

open Sql

/-! ### Rules -/

/-- A rule finds nothing exactly when it holds. -/
theorem unlessHolds_eq_nil_iff {holds : Bool} {v : Violation} :
    unlessHolds holds v = [] ↔ holds = true := by
  cases holds <;> simp [unlessHolds]

/-- A column is not complained of exactly when its name is accepted. -/
theorem checkColumn_eq_nil_iff {role : ColumnRole} {name : String} :
    checkColumn role name = [] ↔ acceptsColumn name = true :=
  unlessHolds_eq_nil_iff

/-- A column name that may be missing or empty is acceptable otherwise. -/
def AcceptsOptional (name : Option String) : Prop :=
  ∀ c, name = some c → c ≠ "" → acceptsColumn c = true

/-- A column that may be missing is not complained of exactly when it is missing or its name is
accepted. -/
theorem checkOptionalColumn_eq_nil_iff {role : ColumnRole} {name : Option String} :
    checkOptionalColumn role name = [] ↔ AcceptsOptional name := by
  cases name with
  | none => simp [checkOptionalColumn, AcceptsOptional]
  | some c =>
    by_cases hc : c = ""
    · simp [checkOptionalColumn, AcceptsOptional, hc]
    · simp [checkOptionalColumn, AcceptsOptional, hc, checkColumn_eq_nil_iff]

/-! ### Parts of a request -/

/-- The name of a table is acceptable, and so are the sides of its own ON condition. -/
structure TableSource.Valid (t : TableSource) : Prop where
  name : acceptsTable t.name = true
  sides : ∀ left right, t.explicitSides? = some (left, right) →
    acceptsColumn left = true ∧ acceptsColumn right = true

theorem TableSource.violations_eq_nil_iff {t : TableSource} : t.violations = [] ↔ t.Valid := by
  rw [TableSource.violations, List.append_eq_nil_iff, unlessHolds_eq_nil_iff]
  constructor
  · rintro ⟨hname, hsides⟩
    refine ⟨hname, fun left right h ↦ ?_⟩
    rw [h] at hsides
    simpa [checkColumn_eq_nil_iff] using hsides
  · rintro ⟨hname, hsides⟩
    refine ⟨hname, ?_⟩
    split
    · next left right h => simpa [checkColumn_eq_nil_iff] using hsides left right h
    · rfl

/-- The column of a filter is acceptable. A tagged column is acceptable and no list to test
membership in; a list is not empty, and membership is tested in it. -/
structure Filter.Valid (f : Filter) : Prop where
  column : acceptsColumn f.column = true
  taggedColumn : ∀ table name, f.value = .column table name →
    acceptsColumn (table ++ "." ++ name) = true ∧ f.comparison ≠ .among
  list : ∀ items, f.value = .list items → f.comparison = .among ∧ items ≠ []

/-- A filter breaks no rule exactly when it is valid. -/
theorem Filter.violations_eq_nil_iff {f : Filter} : f.violations = [] ↔ f.Valid := by
  rw [Filter.violations, List.append_eq_nil_iff, checkColumn_eq_nil_iff, Filter.valueViolations]
  constructor
  · rintro ⟨hcolumn, hvalue⟩
    refine ⟨hcolumn, fun table name h ↦ ?_, fun items h ↦ ?_⟩
    · rw [h] at hvalue
      simpa [checkColumn_eq_nil_iff, unlessHolds_eq_nil_iff] using hvalue
    · rw [h] at hvalue
      simpa [unlessHolds_eq_nil_iff] using hvalue
  · rintro ⟨hcolumn, htagged, hlist⟩
    refine ⟨hcolumn, ?_⟩
    split
    · next table name h =>
      simpa [checkColumn_eq_nil_iff, unlessHolds_eq_nil_iff] using htagged table name h
    · next items h => simpa [unlessHolds_eq_nil_iff] using hlist items h
    · rfl

/-- The left side of a condition on groups is an aggregate with a known function, and its
comparison fits. -/
def GroupCondition.Valid (c : GroupCondition) : Prop :=
  ∃ w column, aggregateParts? c.aggregation.toList = some (w, column) ∧
    (Vocabulary.ofWord? (String.ofList (w.map Char.toUpper)) : Option AggregateFunction).isSome ∧
    c.comparison.fitsAggregate = true

theorem GroupCondition.violations_eq_nil_iff {c : GroupCondition} :
    c.violations = [] ↔ c.Valid := by
  rw [GroupCondition.violations, GroupCondition.Valid]
  split
  · next h => simp [h]
  · next w column h => simp [h, unlessHolds_eq_nil_iff]

/-! ### Requests -/

namespace Request

/-- A request is valid when it names a table and all its parts are acceptable. -/
structure Valid (r : Request) : Prop where
  tables_ne_nil : r.tables.getD [] ≠ []
  tables : ∀ t ∈ r.tables.getD [], t.toSource.Valid
  columns : ∀ c ∈ r.columns.getD [], AcceptsOptional c.column?
  aggregations : ∀ a ∈ r.aggregations.getD [], AcceptsOptional a.column
  filters : ∀ f ∈ r.filters.getD [], f.Valid
  having : ∀ list, r.having = some (.conditions list) → ∀ c ∈ list, c.Valid
  orderBy : ∀ o ∈ r.orderBy.getD [], AcceptsOptional o.column
  groupBy : ∀ g, r.groupBy = some g → ∀ name ∈ g.names, acceptsColumn name = true

/-- The tables break no rule exactly when there are some and each of them is valid. -/
theorem tableViolations_eq_nil_iff {r : Request} : r.tableViolations = [] ↔
    r.tables.getD [] ≠ [] ∧ ∀ t ∈ r.tables.getD [], t.toSource.Valid := by
  rw [tableViolations]
  split
  · next h => simp [h]
  · next h =>
    have hne : r.tables.getD [] ≠ [] := h
    simp [List.flatMap_eq_nil_iff, TableSource.violations_eq_nil_iff, hne]

/-- **A request breaks no rule exactly when it is valid.** -/
theorem violations_eq_nil_iff {r : Request} : r.violations = [] ↔ r.Valid := by
  simp only [violations, List.append_eq_nil_iff, tableViolations_eq_nil_iff,
    List.flatMap_eq_nil_iff, checkOptionalColumn_eq_nil_iff, Filter.violations_eq_nil_iff]
  constructor
  · rintro ⟨⟨⟨⟨⟨⟨⟨hne, htables⟩, hcolumns⟩, haggregations⟩, hfilters⟩, hhaving⟩, horderBy⟩,
      hgroupBy⟩
    refine ⟨hne, htables, hcolumns, haggregations, hfilters, fun list hlist ↦ ?_, horderBy,
      fun g hg ↦ ?_⟩
    · rw [hlist] at hhaving
      simpa [List.flatMap_eq_nil_iff, GroupCondition.violations_eq_nil_iff] using hhaving
    · rw [hg] at hgroupBy
      simpa [List.flatMap_eq_nil_iff, checkColumn_eq_nil_iff] using hgroupBy
  · rintro ⟨hne, htables, hcolumns, haggregations, hfilters, hhaving, horderBy, hgroupBy⟩
    refine ⟨⟨⟨⟨⟨⟨⟨hne, htables⟩, hcolumns⟩, haggregations⟩, hfilters⟩, ?_⟩, horderBy⟩, ?_⟩
    · split
      · next list hlist =>
        simpa [List.flatMap_eq_nil_iff, GroupCondition.violations_eq_nil_iff]
          using hhaving list hlist
      · rfl
    · split
      · next g hg => simpa [List.flatMap_eq_nil_iff, checkColumn_eq_nil_iff] using hgroupBy g hg
      · rfl

/-- **Validation accepts exactly the valid requests.** -/
theorem validate_eq_ok_iff {r : Request} : r.validate = .ok () ↔ r.Valid := by
  rw [← violations_eq_nil_iff, validate]
  split
  · next h => simp [h]
  · next h => simp [h]

end Request

/-! ### Flat reports -/

/-- A flat report whose parts are acceptable. Columns and aggregates are not empty any more. -/
structure Report.Valid (p : Report) : Prop where
  tables_ne_nil : p.tables ≠ []
  tables : ∀ t ∈ p.tables, t.Valid
  columns : ∀ c ∈ p.columns, acceptsColumn c = true
  aggregates : ∀ a ∈ p.aggregates, acceptsColumn a.column = true
  filters : ∀ f ∈ p.filters, f.Valid
  having : ∀ list, p.having = some (.conditions list) → ∀ c ∈ list, c.Valid
  groupBy : ∀ names, p.groupBy = some names → ∀ c ∈ names, acceptsColumn c = true

/-- An aggregation denotes the aggregate of its two parts, when neither is missing or empty. -/
theorem Aggregation.aggregate?_eq_some_iff {a : Aggregation} {b : Aggregate} :
    a.aggregate? = some b ↔
      a.function = some b.function ∧ a.column = some b.column ∧ b.column ≠ "" := by
  obtain ⟨function, column⟩ := a
  obtain ⟨f, name⟩ := b
  rcases function with - | function <;> rcases column with - | column
  · simp [aggregate?]
  · simp [aggregate?]
  · simp [aggregate?]
  · by_cases hempty : column = ""
    · simp only [aggregate?, hempty, if_true, reduceCtorEq, Option.some.injEq, false_iff]
      rintro ⟨-, rfl, hne⟩
      exact hne rfl
    · simp only [aggregate?, hempty, if_false, Option.some.injEq, Aggregate.mk.injEq]
      constructor
      · rintro ⟨rfl, rfl⟩
        exact ⟨rfl, rfl, hempty⟩
      · rintro ⟨hfunction, hcolumn, -⟩
        exact ⟨hfunction, hcolumn⟩

namespace Request

variable {r : Request}

/-! ### Where the names of a flat report come from -/

/-- The selected columns are the names that entries give, but for empty ones. -/
theorem mem_selectedColumns_iff {c : String} : c ∈ r.selectedColumns ↔
    c ≠ "" ∧ ∃ entry ∈ r.columns.getD [], entry.column? = some c := by
  simp only [selectedColumns, List.mem_filterMap, Option.filter_eq_some_iff, decide_eq_true_eq]
  constructor
  · rintro ⟨entry, hentry, hname, hne⟩
    exact ⟨hne, entry, hentry, hname⟩
  · rintro ⟨hne, entry, hentry, hname⟩
    exact ⟨entry, hentry, hname, hne⟩

/-- The aggregates are the aggregations with both parts, but for those on an empty name. -/
theorem mem_aggregates_iff {a : Aggregate} : a ∈ r.aggregates ↔ a.column ≠ "" ∧
    ∃ entry ∈ r.aggregations.getD [],
      entry.function = some a.function ∧ entry.column = some a.column := by
  simp only [aggregates, List.mem_filterMap, Aggregation.aggregate?_eq_some_iff]
  constructor
  · rintro ⟨entry, hentry, hfunction, hcolumn, hne⟩
    exact ⟨hne, entry, hentry, hfunction, hcolumn⟩
  · rintro ⟨hne, entry, hentry, hfunction, hcolumn⟩
    exact ⟨entry, hentry, hfunction, hcolumn, hne⟩

/-- A grouping that is asked for has the names of the request's own. -/
theorem exists_of_explicitGroupBy {names : List String} (h : r.explicitGroupBy = some names) :
    ∃ g, r.groupBy = some g ∧ names = g.names := by
  rw [explicitGroupBy] at h
  split at h
  · cases h
  · next list hgroup =>
    cases h
    exact ⟨_, hgroup, rfl⟩
  · next s hgroup =>
    split at h
    · cases h
    · cases h
      exact ⟨_, hgroup, rfl⟩

/-- Every column that a valid request selects is accepted. -/
theorem Valid.acceptsColumn_of_selected (h : r.Valid) :
    ∀ c ∈ r.selectedColumns, acceptsColumn c = true := by
  intro c hc
  obtain ⟨hne, entry, hentry, hname⟩ := mem_selectedColumns_iff.1 hc
  exact h.columns entry hentry c hname hne

theorem Valid.acceptsColumn_of_aggregated (h : r.Valid) :
    ∀ a ∈ r.aggregates, acceptsColumn a.column = true := by
  intro a ha
  obtain ⟨hne, entry, hentry, -, hcolumn⟩ := mem_aggregates_iff.1 ha
  exact h.aggregations entry hentry a.column hcolumn hne

/-- Every column that a valid request groups by is accepted. -/
theorem Valid.acceptsColumn_of_grouped (h : r.Valid) :
    ∀ names, r.explicitGroupBy = some names → ∀ c ∈ names, acceptsColumn c = true := by
  intro names hnames
  obtain ⟨g, hgroup, rfl⟩ := exists_of_explicitGroupBy hnames
  exact h.groupBy g hgroup

/-- A grouping that is decided is the one that is asked for, or is by the columns. -/
theorem eq_or_eq_of_resolveGroupBy {explicit : Option (List String)} {columns names : List String}
    {aggregates : Bool} (h : resolveGroupBy explicit columns aggregates = some names) :
    explicit = some names ∨ names = columns := by
  rw [resolveGroupBy.eq_def] at h
  split at h
  · exact .inl h
  · split at h
    · cases h
      exact .inr rfl
    · cases h

/-- A valid request has a flat report, whose parts are acceptable. -/
theorem Valid.exists_normalize (h : r.Valid) :
    ∃ p, r.normalize = .ok p ∧ p.Valid ∧ p.having = r.having := by
  rw [normalize]
  split
  · next hnil => exact absurd hnil h.tables_ne_nil
  · refine ⟨_, rfl, ?_, rfl⟩
    constructor
    case tables_ne_nil => simpa using h.tables_ne_nil
    case tables =>
      intro t ht
      obtain ⟨entry, hentry, rfl⟩ := List.mem_map.1 ht
      exact h.tables entry hentry
    case columns => exact h.acceptsColumn_of_selected
    case aggregates => exact h.acceptsColumn_of_aggregated
    case filters => exact h.filters
    case having => exact h.having
    case groupBy =>
      intro names hnames
      change resolveGroupBy r.explicitGroupBy r.selectedColumns _ = some names at hnames
      rcases eq_or_eq_of_resolveGroupBy hnames with hexplicit | rfl
      · exact h.acceptsColumn_of_grouped _ hexplicit
      · exact h.acceptsColumn_of_selected

/-- **A valid request compiles**, to the clauses of its flat report with a join plan. -/
theorem Valid.exists_compile (h : r.Valid) (c : Compiler) :
    ∃ p plan, r.normalize = .ok p ∧ p.Valid ∧ p.having = r.having ∧
      JoinPlan.resolve? c.graph p.joinType p.tables = some plan ∧
      c.compile r = .ok (Compiler.assemble c.dateFormat p plan) := by
  obtain ⟨p, hp, hvalid, hhaving⟩ := h.exists_normalize
  obtain ⟨first, rest, htables⟩ := List.exists_cons_of_ne_nil hvalid.tables_ne_nil
  have hplan : JoinPlan.resolve? c.graph p.joinType p.tables =
      some (JoinPlan.ofBase c.graph p.joinType first.name rest) := by
    rw [htables]
    rfl
  refine ⟨p, _, hp, hvalid, hhaving, hplan, ?_⟩
  have hvalidated : r.validate.mapError CompileError.invalid = .ok () := by
    rw [validate_eq_ok_iff.2 h]
    rfl
  have hnormalized : r.normalize.mapError CompileError.invalid = .ok p := by
    rw [hp]
    rfl
  simp only [Compiler.compile, hvalidated, hnormalized, bind, Except.bind, hplan]
  rfl

/-! ### What a compiled report is made of -/

/-- The flat report of a request, as it is when the request names a table. -/
def flat (r : Request) : Report where
  tables := (r.tables.getD []).map TableEntry.toSource
  joinType := r.joinType
  columns := r.selectedColumns
  aggregates := r.aggregates
  filters := r.filters.getD []
  having := r.having
  orderBy := r.orderBy.getD []
  groupBy := resolveGroupBy r.explicitGroupBy r.selectedColumns (!r.aggregates.isEmpty)

/-- A request with a table has its flat report. -/
theorem normalize_eq_flat (h : r.tables.getD [] ≠ []) : r.normalize = .ok r.flat := by
  rw [normalize]
  split
  · next hnil => exact absurd hnil h
  · rfl

/-- The flat report of a valid request is valid. -/
theorem Valid.flat (h : r.Valid) : r.flat.Valid := by
  obtain ⟨p, hp, hvalid, -⟩ := h.exists_normalize
  rw [normalize_eq_flat h.tables_ne_nil] at hp
  cases hp
  exact hvalid

/-- Compiling validates first. -/
theorem valid_of_compile {c : Compiler} {compiled : CompiledReport}
    (h : c.compile r = .ok compiled) : r.Valid := by
  rw [← validate_eq_ok_iff]
  rcases hvalidate : r.validate with v | ⟨⟨⟩⟩
  · rw [Compiler.compile, hvalidate] at h
    cases h
  · rfl

/-- A valid request compiles to the clauses of its flat report, with the plan for its tables. -/
theorem Valid.compile_eq (h : r.Valid) (c : Compiler) {first : TableEntry}
    {rest : List TableEntry} (htables : r.tables.getD [] = first :: rest) :
    c.compile r = .ok (Compiler.assemble c.dateFormat r.flat
      (.ofBase c.graph r.joinType first.toSource.name (rest.map TableEntry.toSource))) := by
  obtain ⟨p, plan, hp, -, -, hplan, hcompile⟩ := h.exists_compile c
  rw [normalize_eq_flat h.tables_ne_nil] at hp
  cases hp
  rw [Request.flat, htables, List.map_cons] at hplan
  cases hplan
  exact hcompile

/-- **What compiles is valid**, and compiled are the clauses of its flat report. -/
theorem exists_of_compile {c : Compiler} {compiled : CompiledReport}
    (h : c.compile r = .ok compiled) : r.Valid ∧ ∃ first rest,
      r.tables.getD [] = first :: rest ∧ compiled = Compiler.assemble c.dateFormat r.flat
        (.ofBase c.graph r.joinType first.toSource.name (rest.map TableEntry.toSource)) := by
  have hvalid := valid_of_compile h
  obtain ⟨first, rest, htables⟩ := List.exists_cons_of_ne_nil hvalid.tables_ne_nil
  have hcompile := hvalid.compile_eq c htables
  rw [h] at hcompile
  cases hcompile
  exact ⟨hvalid, first, rest, htables, rfl⟩

end Request

end ReportQuery
