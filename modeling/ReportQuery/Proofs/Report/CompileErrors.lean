import ReportQuery.Proofs.Report.Acceptance

/-!
# Compiling fails where validation fails, and nowhere else

After validation a request is made flat, its tables are planned and its clauses are built, and each
of these asks for something that a request can lack: flattening and planning for a table, a selected
aggregate for a function and a column, and a written literal for a value that can be classified as
numeric or not. This file shows that validation and flattening together leave no such lack
(`Compiler.compile_eq_error_iff_validate`), so that the only error of compiling is the violation
that validation found, in the same words.

A flat report holds complete aggregates, which cannot lack a part. To say that this loses nothing,
`Sql.SelectClause.ofAggregations?` builds the clause from the aggregations as they were asked for,
with parts that may be missing, and has no result when one is missing that it needs. The clause that
is compiled is its result (`ofAggregations?_keptAggregations`).

The values of filters are classified as numeric or not by converting them, and a conversion can fail
on one kind of number only, a signaling one. Such a number cannot be written in a document; it is
excluded here by its type (`FilterValue.not_isSignaling`) and not by the rules.
-/

namespace ReportQuery

open Sql

/-! ### Aggregations with parts that may be missing -/

/-- The selected item of an aggregation. There is none without a function or without a column. -/
def Aggregation.item? (a : Aggregation) : Option SelectItem := do
  let function ← a.function
  let column ← a.column
  return {
    expression := word function ++ "(" ++ column ++ ")"
    givenAlias := some (word function ++ "_" ++ columnAlias column) }

/-- The clause for columns and aggregations, if every aggregation has an item. -/
def Sql.SelectClause.ofAggregations? (columns : List String) (entries : List Aggregation) :
    Option SelectClause := do
  let items ← entries.mapM Aggregation.item?
  return { items := items ++ (SelectClause.build columns []).items }

/-- The aggregation has a function, and a column that is not empty. -/
def Aggregation.isComplete (a : Aggregation) : Bool :=
  a.function.isSome && a.column.any (· ≠ "")

/-- The aggregations of a request that are selected. -/
def Request.keptAggregations (r : Request) : List Aggregation :=
  (r.aggregations.getD []).filter Aggregation.isComplete

/-- An aggregation is an aggregate exactly when it is complete. -/
theorem Aggregation.isSome_aggregate? (a : Aggregation) : a.aggregate?.isSome = a.isComplete := by
  obtain ⟨function, column⟩ := a
  rcases function with - | function <;> rcases column with - | column
  · rfl
  · rfl
  · rfl
  · by_cases h : column = "" <;> simp [aggregate?, isComplete, h]

/-- The item of an aggregation that denotes an aggregate is the item of the aggregate. -/
theorem Aggregation.item?_of_aggregate? {a : Aggregation} {b : Aggregate}
    (h : a.aggregate? = some b) :
    a.item? = some { expression := b.expression, givenAlias := some b.resultAlias } := by
  obtain ⟨hfunction, hcolumn, -⟩ := aggregate?_eq_some_iff.1 h
  rw [item?, hfunction, hcolumn]
  rfl

/-- The complete aggregations all have their items. -/
theorem Aggregation.mapM_item? (entries : List Aggregation) :
    (entries.filter isComplete).mapM item? = some ((entries.filterMap aggregate?).map fun b ↦
      { expression := b.expression, givenAlias := some b.resultAlias }) := by
  induction entries with
  | nil => rfl
  | cons a entries ih =>
    have hcomplete := a.isSome_aggregate?
    rcases h : a.aggregate? with - | b
    · rw [h] at hcomplete
      rw [List.filter_cons_of_neg (by simp [← hcomplete]), List.filterMap_cons_none h, ih]
    · rw [h] at hcomplete
      rw [List.filter_cons_of_pos hcomplete.symm, List.filterMap_cons_some h, List.mapM_cons,
        item?_of_aggregate? h, ih]
      rfl

/-- **No selected aggregation lacks a part**, and from the selected ones comes the clause that is
built from the aggregates of the request. -/
theorem ofAggregations?_keptAggregations (columns : List String) (r : Request) :
    SelectClause.ofAggregations? columns r.keptAggregations =
      some (SelectClause.build columns r.aggregates) := by
  rw [SelectClause.ofAggregations?, Request.keptAggregations, Aggregation.mapM_item?]
  rfl

/-! ### Values that are classified -/

/-- The values that are classified as numeric or not when the value is written. -/
def Value.classified : Value → List Value
  | .column _ _ => []
  | .literal v => [v]
  | .list items => items
  | v => [v]

/-- The value that is written on the right side of a filter. -/
def Filter.writtenValue (f : Filter) : Value :=
  (if f.comparison = .among then membershipList f.value else f.value).toValue

theorem Scalar.isSignaling_toValue (s : Scalar) : s.toValue.isSignaling = false := by
  cases s <;> rfl

/-- No value of a filter has a signaling number in it. -/
theorem FilterValue.not_isSignaling {value : FilterValue} :
    ∀ v ∈ value.toValue.classified, v.isSignaling = false := by
  intro v hv
  cases value with
  | column table name => cases hv
  | literal s =>
    rw [List.mem_singleton.1 hv]
    exact s.isSignaling_toValue
  | list items =>
    obtain ⟨s, -, rfl⟩ := List.mem_map.1 hv
    exact s.isSignaling_toValue
  | scalar s =>
    have hself : s.toValue.classified = [s.toValue] := by cases s <;> rfl
    rw [FilterValue.toValue, hself, List.mem_singleton] at hv
    rw [hv]
    exact s.isSignaling_toValue

/-! ### Compiling -/

namespace Compiler

variable {c : Compiler} {r : Request}

/-- A request that breaks a rule is refused by that rule. -/
theorem compile_of_validate_error {v : Violation} (h : r.validate = .error v) :
    c.compile r = .error (.invalid v) := by
  rw [compile, h]
  rfl

/-- A request that validation accepts compiles. -/
theorem exists_compile_iff : (∃ compiled, c.compile r = .ok compiled) ↔ r.validate = .ok () := by
  constructor
  · rintro ⟨compiled, h⟩
    exact Request.validate_eq_ok_iff.2 (Request.valid_of_compile h)
  · intro h
    obtain ⟨_, _, -, -, -, -, hcompile⟩ := (Request.validate_eq_ok_iff.1 h).exists_compile c
    exact ⟨_, hcompile⟩

/-- **Compiling fails exactly where the rules are broken**, with the same error. -/
theorem compile_eq_error_iff {e : CompileError} :
    c.compile r = .error e ↔ ∃ v, r.validate = .error v ∧ e = .invalid v := by
  constructor
  · intro h
    rcases hvalidate : r.validate with v | ⟨⟨⟩⟩
    · rw [compile_of_validate_error hvalidate] at h
      cases h
      exact ⟨v, rfl, rfl⟩
    · obtain ⟨compiled, hcompile⟩ := exists_compile_iff.2 hvalidate
      rw [hcompile] at h
      cases h
  · rintro ⟨v, hvalidate, rfl⟩
    exact compile_of_validate_error hvalidate

/-- **Compiling fails exactly when validation fails**, with the violation that validation found and
in its words. Otherwise it gives a compiled report whose parts and statement can be written: the
request has a flat report and its tables have a plan, no selected aggregation lacks a part, and no
value that is written refuses to be classified. -/
theorem compile_eq_error_iff_validate (c : Compiler) (r : Request) :
    (∀ e, c.compile r = .error e ↔ ∃ v, r.validate = .error v ∧ e = .invalid v) ∧
    (∀ v, (CompileError.invalid v).message = v.message) ∧
    ((∃ compiled, c.compile r = .ok compiled) ↔ r.validate = .ok ()) ∧
    ∀ compiled, c.compile r = .ok compiled →
      c.preview r = .ok compiled.parts.sql ∧
      ∃ p, r.normalize = .ok p ∧
        JoinPlan.resolve? c.graph p.joinType p.tables = some compiled.plan ∧
        SelectClause.ofAggregations? p.columns r.keptAggregations = some compiled.select ∧
        (∀ f ∈ p.filters, ∀ v ∈ f.writtenValue.classified, v.isSignaling = false) ∧
        ∀ list, p.having = some (.conditions list) →
          ∀ g ∈ list, g.value.toValue.isSignaling = false := by
  refine ⟨fun e ↦ compile_eq_error_iff, fun v ↦ rfl, exists_compile_iff, fun compiled h ↦ ?_⟩
  have hpreview : c.preview r = .ok compiled.parts.sql := by
    rw [preview, h]
    rfl
  obtain ⟨hvalid, first, rest, htables, rfl⟩ := Request.exists_of_compile h
  refine ⟨hpreview, r.flat, Request.normalize_eq_flat hvalid.tables_ne_nil, ?_,
    ofAggregations?_keptAggregations r.selectedColumns r, fun f _ ↦ FilterValue.not_isSignaling,
    fun list _ g _ ↦ g.value.isSignaling_toValue⟩
  rw [Request.flat, htables]
  rfl

/-- A request with an aggregation for each way to be incomplete, and one that is complete. -/
def incompleteRequest : Request where
  tables := some [.name "sales"]
  columns := some [.item none, .name "", .absent, .name "sales.id"]
  aggregations := some [{ function := some .sum }, { column := some "sales.total" }, {},
    { function := some .sum, column := some "" },
    { function := some .max, column := some "sales.total" }]

theorem compile_incompleteRequest :
    ∃ compiled, ({} : Compiler).compile incompleteRequest = .ok compiled ∧
      ({} : Compiler).preview incompleteRequest = .ok compiled.parts.sql ∧
      SelectClause.ofAggregations? ["sales.id"] incompleteRequest.keptAggregations =
        some compiled.select := by
  obtain ⟨-, -, haccepted, hcompiled⟩ := compile_eq_error_iff_validate {} incompleteRequest
  obtain ⟨compiled, hcompile⟩ := haccepted.2 rfl
  obtain ⟨hpreview, p, hp, -, hselect, -⟩ := hcompiled compiled hcompile
  cases hp
  exact ⟨compiled, hcompile, hpreview, hselect⟩

end Compiler

end ReportQuery
