import ReportQuery.Proofs.JoinPlan.FromTables
import ReportQuery.Proofs.Report.Accounting

/-!
# Tables that are reported as left out

A plan skips entries and not names. An entry is skipped because its table is in FROM already, or
because nothing in FROM is related to it at its place; the compiled report tells the two apart by
their kind. This file says what such a report means for the name: a duplicate is in FROM, and an
unrelated table is in FROM exactly when a **later** entry of the same name could be joined
(`resolve?_included_or_skipped`). A name that is requested once is in FROM or reported, and not
both.

The laws about FROM are those of `JoinPlan.mem_fromTables_iff_of_unrelated` and
`JoinPlan.count_requested`; what is added here is which items of the compiled report are these
tables (`Compiler.droppedOf_skippedTable`).

An unrelated table is reported with the tables that were in FROM at the time, which is not all of
FROM in the end. So a table may be reported as unrelated and be joined later, under the same name;
the theorem says exactly when, and that this takes another entry.
-/

namespace ReportQuery

/-! ### The items for unrelated tables -/

/-- The tables that are left out as unrelated are the skipped ones that are no duplicates. -/
theorem Dropped.filter_skippedTable_ofSkipped (skipped : List SkippedTable) :
    (skipped.map ofSkipped).filter (·.kind = .skippedTable) =
      (skipped.filter (·.reason ≠ .duplicate)).map ofSkipped := by
  rw [List.filter_map]
  congr 1
  refine List.filter_congr fun s _ ↦ ?_
  obtain ⟨table, reason⟩ := s
  cases reason <;> rfl

/-- The tables that are reported as skipped are those that are no duplicates, in order. -/
theorem Compiler.droppedOf_skippedTable (dateFormat : String) (p : Report) (plan : JoinPlan) :
    (assemble dateFormat p plan).droppedOf .skippedTable =
      (plan.skipped.filter (·.reason ≠ .duplicate)).map Dropped.ofSkipped := by
  rw [droppedOf_assemble_eq, Dropped.filter_skippedTable_ofSkipped]
  simp

namespace JoinPlan

open ReportQuery.Relation

variable {g : Graph} {default : JoinType} {first : TableSource} {rest : List TableSource}

/-! ### Names in FROM and names that are skipped -/

/-- A table that is requested is in FROM or is skipped, and no other table is. -/
theorem mem_requested_iff (name : String) : name ∈ (first :: rest).map (·.name) ↔
    name ∈ (ofBase g default first.name rest).included ∨
      name ∈ (ofBase g default first.name rest).skipped.map (·.table) := by
  have hcount := count_requested g default first.name rest name
  rw [← List.count_pos_iff, ← List.count_pos_iff, ← List.count_pos_iff, List.map_cons, hcount]
  omega

/-- A name that is in both places is requested twice at least. -/
theorem two_le_count_requested {name : String}
    (hincluded : name ∈ (ofBase g default first.name rest).included)
    (hskipped : name ∈ (ofBase g default first.name rest).skipped.map (·.table)) :
    2 ≤ ((first :: rest).map (·.name)).count name := by
  have hcount := count_requested g default first.name rest name
  rw [← List.count_pos_iff] at hincluded hskipped
  rw [List.map_cons, hcount]
  omega

/-- A duplicate was in FROM when it was skipped, and stays there. -/
theorem mem_included_of_duplicate {s : SkippedTable}
    (h : s ∈ (ofBase g default first.name rest).skipped) (hreason : s.reason = .duplicate) :
    s.table ∈ (ofBase g default first.name rest).included := by
  obtain ⟨p, hp, hskipped⟩ := List.mem_filterMap.1 h
  obtain ⟨i, hi⟩ := List.mem_iff_getElem?.1 hp
  obtain ⟨table, reason⟩ := s
  cases p with
  | joined step => cases hskipped
  | skipped s =>
    cases hskipped
    cases hreason
    exact fromTables_take_subset i (mem_fromTables_of_duplicate hi)

/-- **Every requested name is in FROM or is reported, and a name that is requested once is not
both.** A duplicate is in FROM. A table that is reported for want of a relation was not in FROM when
it was reported, and comes in by a later entry of its name that can be joined, or not at all; these
tables are the ones that the compiled report has as skipped. -/
theorem resolve?_included_or_skipped (g : Graph) (default : JoinType) (first : TableSource)
    (rest : List TableSource) :
    ∃ plan, resolve? g default (first :: rest) = some plan ∧
      (∀ name, name ∈ (first :: rest).map (·.name) ↔
        name ∈ plan.included ∨ name ∈ plan.skipped.map (·.table)) ∧
      (∀ name, ((first :: rest).map (·.name)).count name = 1 →
        ¬ (name ∈ plan.included ∧ name ∈ plan.skipped.map (·.table))) ∧
      (∀ s ∈ plan.skipped, s.reason = .duplicate → s.table ∈ plan.included) ∧
      plan.skipped = (placements g default [first.name] rest).filterMap Placement.skipped? ∧
      (∀ (i : ℕ) (s : SkippedTable),
        (placements g default [first.name] rest)[i]? = some (.skipped s) → s.reason ≠ .duplicate →
        s.table ∉ tablesBefore g default first.name rest i ∧
          (s.table ∈ plan.included ↔ ∃ j > i, ∃ t, rest[j]? = some t ∧ t.name = s.table ∧
            Joinable g.edges (tablesBefore g default first.name rest j) t)) ∧
      ∀ dateFormat p, (Compiler.assemble dateFormat p plan).droppedOf .skippedTable =
        (plan.skipped.filter (·.reason ≠ .duplicate)).map Dropped.ofSkipped := by
  refine ⟨_, rfl, mem_requested_iff, ?_, fun s ↦ mem_included_of_duplicate, rfl, ?_,
    fun dateFormat p ↦ Compiler.droppedOf_skippedTable dateFormat p _⟩
  · rintro name honce ⟨hincluded, hskipped⟩
    have htwice := two_le_count_requested hincluded hskipped
    omega
  · rintro i ⟨table, reason⟩ hi hreason
    cases reason with
    | duplicate => exact absurd rfl hreason
    | unrelated included => exact mem_fromTables_iff_of_unrelated hi

/-- The key of stores that refers to brands. -/
def brandKey : Edge where
  owner := .text "stores"
  referenced := .text "brands"
  column := .text "brand_id"

/-- No edge links brands to sales, and one does to stores, which come after the first mention of
brands and before the second. -/
def brandsTwice : List TableSource :=
  [{ name := "sales" }, { name := "brands" }, { name := "stores" }, { name := "brands" }]

/-- The second mention brings brands into FROM. -/
theorem resolve?_brands_included :
    ∃ plan, resolve? (.ofEdges [storeKey, brandKey]) .inner brandsTwice = some plan ∧
      "brands" ∈ plan.included := by
  obtain ⟨plan, hplan, -, -, -, -, hunrelated, -⟩ :=
    resolve?_included_or_skipped (.ofEdges [storeKey, brandKey]) .inner { name := "sales" }
      [{ name := "brands" }, { name := "stores" }, { name := "brands" }]
  refine ⟨plan, hplan, (hunrelated 0 ⟨"brands", .unrelated ["sales"]⟩ rfl (by decide)).2.2 ?_⟩
  refine ⟨2, by decide, _, rfl, rfl, .inr ⟨"stores", by decide, brandKey, ?_, .inl ⟨rfl, rfl⟩⟩⟩
  rw [Graph.edges_ofEdges]
  exact List.mem_cons_of_mem _ List.mem_cons_self

/-- So brands are in FROM and are reported as unrelated. -/
theorem resolve?_brands_skipped_and_included :
    ∃ plan, resolve? (.ofEdges [storeKey, brandKey]) .inner brandsTwice = some plan ∧
      ∃ s ∈ plan.skipped, s.reason ≠ .duplicate ∧ s.table ∈ plan.included :=
  ⟨_, rfl, ⟨"brands", .unrelated ["sales"]⟩, by decide, by decide, by decide⟩

end JoinPlan

end ReportQuery
