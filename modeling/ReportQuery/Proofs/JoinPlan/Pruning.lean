import ReportQuery.Proofs.JoinPlan.Placement

/-!
# Plans without the tables that they skip

Every table after the first has one record in the pass that makes a plan: a join, or a reason why
it is skipped. This file counts the records and compares two passes, one over all the requested
tables and one over those that the first pass joined.

The two passes agree join by join (`placements_kept`), because a skipped table leaves nothing
behind: the list of included tables is the same after it as before (`Placement.extend`). So a name
that is skipped at one place and joined at a later one is joined there by the same edge, whether
its first mention is there or not. Entries are kept by the position of their record and not by
their name, since one name can have records of both kinds.

Entries and records are walked in step, as two lists of the same length. `kept` takes the entries
whose record is a join, and `leftOut` the others; both work for entries of any type, so that the
same two functions select table sources, requested entries and names.
-/

namespace ReportQuery.JoinPlan

open ReportQuery.Relation

variable {g : Graph} {default : JoinType}

/-! ### Counting records -/

/-- Whatever becomes of an entry, the record is about its table. -/
theorem table_place (included : List String) (t : TableSource) :
    (place g default included t).table = t.name :=
  (place_follows_declaration g default (Agrees.refl included) t).table_eq

/-- The records are about the tables, one by one. -/
theorem map_table_placements (included : List String) (ts : List TableSource) :
    (placements g default included ts).map Placement.table = ts.map (·.name) := by
  induction ts generalizing included with
  | nil => rfl
  | cons t ts ih => rw [placements, List.map_cons, List.map_cons, table_place, ih]

/-- A record is a join or skips a table, and never both. -/
theorem length_joined_add_skipped (records : List Placement) :
    (records.filterMap Placement.step?).length + (records.filterMap Placement.skipped?).length =
      records.length := by
  induction records with
  | nil => rfl
  | cons p records ih =>
    cases p with
    | joined step =>
      simp only [List.filterMap_cons, Placement.step?, Placement.skipped?, List.length_cons]
      omega
    | skipped s =>
      simp only [List.filterMap_cons, Placement.step?, Placement.skipped?, List.length_cons]
      omega

/-! ### Keeping what is joined -/

/-- The record joins its table. -/
def Placement.isJoined (p : Placement) : Bool :=
  p.step?.isSome

/-- The entries whose record joins them, where each entry has its record at the same position. -/
def kept {α : Type} (entries : List α) (records : List Placement) : List α :=
  ((entries.zip records).filter fun entry ↦ entry.2.isJoined).map (·.1)

/-- The entries whose record skips them. -/
def leftOut {α : Type} (entries : List α) (records : List Placement) : List α :=
  ((entries.zip records).filter fun entry ↦ !entry.2.isJoined).map (·.1)

section Entries

variable {α β : Type}

@[simp] theorem kept_cons_joined (a : α) (step : JoinStep) (entries : List α)
    (records : List Placement) :
    kept (a :: entries) (.joined step :: records) = a :: kept entries records := rfl

@[simp] theorem kept_cons_skipped (a : α) (s : SkippedTable) (entries : List α)
    (records : List Placement) :
    kept (a :: entries) (.skipped s :: records) = kept entries records := rfl

@[simp] theorem leftOut_cons_joined (a : α) (step : JoinStep) (entries : List α)
    (records : List Placement) :
    leftOut (a :: entries) (.joined step :: records) = leftOut entries records := rfl

@[simp] theorem leftOut_cons_skipped (a : α) (s : SkippedTable) (entries : List α)
    (records : List Placement) :
    leftOut (a :: entries) (.skipped s :: records) = a :: leftOut entries records := rfl

theorem mem_of_mem_kept {entries : List α} {records : List Placement} {a : α}
    (h : a ∈ kept entries records) : a ∈ entries := by
  obtain ⟨⟨b, p⟩, hmem, rfl⟩ := List.mem_map.1 h
  exact (List.of_mem_zip (List.mem_filter.1 hmem).1).1

/-- What is kept does not depend on what the entries are. -/
theorem map_kept (f : α → β) (entries : List α) (records : List Placement) :
    (kept entries records).map f = kept (entries.map f) records := by
  simp only [kept, List.zip_map_left, List.filter_map, List.map_map, Function.comp_def,
    Prod.map_fst, Prod.map_snd, id_eq]

theorem map_leftOut (f : α → β) (entries : List α) (records : List Placement) :
    (leftOut entries records).map f = leftOut (entries.map f) records := by
  simp only [leftOut, List.zip_map_left, List.filter_map, List.map_map, Function.comp_def,
    Prod.map_fst, Prod.map_snd, id_eq]

end Entries

/-- **A second pass, over the entries that the first joined, makes the same joins.** -/
theorem placements_kept (included : List String) (ts : List TableSource) :
    placements g default included (kept ts (placements g default included ts)) =
      (placements g default included ts).filter Placement.isJoined := by
  -- both passes reach each joined entry with the same tables included
  induction ts generalizing included with
  | nil => rfl
  | cons t ts ih =>
    rw [placements]
    rcases hplace : place g default included t with step | s
    · rw [kept_cons_joined, placements, hplace, ih]
      rfl
    · rw [kept_cons_skipped]
      exact ih included

/-- The joined records have all the steps. -/
theorem filterMap_step?_filter_isJoined (records : List Placement) :
    (records.filter Placement.isJoined).filterMap Placement.step? =
      records.filterMap Placement.step? := by
  rw [List.filterMap_filter]
  congr 1
  funext p
  cases p <;> rfl

/-- None of the joined records is skipped. -/
theorem filterMap_skipped?_filter_isJoined (records : List Placement) :
    (records.filter Placement.isJoined).filterMap Placement.skipped? = [] := by
  rw [List.filterMap_filter, List.filterMap_eq_nil_iff]
  rintro (step | s) - <;> rfl

/-- **Without the tables that it skips, a plan has the same base and the same joins**, and skips
nothing. -/
theorem ofBase_kept (base : String) (ts : List TableSource) :
    ofBase g default base (kept ts (placements g default [base] ts)) =
      { ofBase g default base ts with skipped := [] } := by
  simp only [ofBase, placements_kept, filterMap_step?_filter_isJoined,
    filterMap_skipped?_filter_isJoined]

/-- The names that are left out are those of the skipped tables, in the same order. -/
theorem names_leftOut (included : List String) (ts : List TableSource) :
    (leftOut ts (placements g default included ts)).map (·.name) =
      ((placements g default included ts).filterMap Placement.skipped?).map (·.table) := by
  induction ts generalizing included with
  | nil => rfl
  | cons t ts ih =>
    have htable : (place g default included t).table = t.name := table_place included t
    rw [placements]
    rcases hplace : place g default included t with step | s
    · rw [leftOut_cons_joined]
      exact ih _
    · rw [hplace] at htable
      have hname : t.name = s.table := htable.symm
      rw [leftOut_cons_skipped, List.map_cons, hname]
      exact congrArg _ (ih included)

end ReportQuery.JoinPlan
