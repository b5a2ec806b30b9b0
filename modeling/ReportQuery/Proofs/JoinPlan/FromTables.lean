import Mathlib.Data.List.Induction
import Mathlib.Data.List.Nodup
import ReportQuery.Proofs.JoinPlan.Pruning
import ReportQuery.Sql.Clause

/-!
# Which tables stand in FROM, and how often

FROM only grows while tables are placed (`fromTables_take_subset`), and a table enters it as the
base or by the record of a join (`mem_fromTables_iff`). This file reads two laws off that growth and
off what each record says about the tables before it.

* A table stands in FROM more than once exactly when a join is recorded while the table is there
  already (`one_lt_count_fromTables_iff`), which of all entries only one with a complete ON
  condition does (`joinsAgain_iff`). An entry without one is checked against FROM first, so that its
  join brings in a new table (`not_mem_of_inferred`); a complete condition is used whatever FROM
  holds.
* Each name is requested as often as it is in FROM and is skipped, taken together
  (`count_requested`). So nothing is lost, and a name that is requested once is in one of the two
  places only. A name that is skipped as unrelated is in FROM all the same exactly when a later
  entry brings it in (`mem_fromTables_iff_of_unrelated`).

## Entries, records and names

An entry is found by its position, and so is its record (`exists_record`, `exists_entry`). A name
can be asked for by several entries, with different fates, so no statement about a name is one about
a single record: it counts records, or says that there is one. `tablesBefore` is FROM at the time at
which an entry is placed. Everything that the pass decided about the entry is a statement about that
list (`Placement.FollowsDeclaration`), and the laws here never look at the pass again.
-/

namespace ReportQuery.JoinPlan

open ReportQuery.Relation

/-! ### FROM grows -/

section Growth

variable {base name : String} {records : List Placement}

/-- A table is in FROM when it is the base, or when a record joins it. -/
theorem mem_fromTables_iff : name ∈ fromTables base records ↔
    name = base ∨ ∃ (i : ℕ) (step : JoinStep), records[i]? = some (.joined step) ∧
      step.table = name := by
  have hstep : ∀ step, step ∈ records.filterMap Placement.step? ↔
      ∃ i : ℕ, records[i]? = some (.joined step) := by
    intro step
    rw [List.mem_filterMap, ← List.mem_iff_getElem?]
    constructor
    · rintro ⟨p | s, hp, hstep⟩
      · cases hstep
        exact hp
      · cases hstep
    · exact fun h ↦ ⟨_, h, rfl⟩
  rw [fromTables, List.mem_cons, List.mem_map]
  constructor
  · rintro (h | ⟨step, hmem, htable⟩)
    · exact .inl h
    · obtain ⟨i, hi⟩ := (hstep step).1 hmem
      exact .inr ⟨i, step, hi, htable⟩
  · rintro (h | ⟨i, step, hi, htable⟩)
    · exact .inl h
    · exact .inr ⟨step, (hstep step).2 ⟨i, hi⟩, htable⟩

/-- A table is in FROM by some position when it is the base, or when a record in front of that
position joins it. -/
theorem mem_fromTables_take_iff {n : ℕ} : name ∈ fromTables base (records.take n) ↔
    name = base ∨ ∃ i < n, ∃ step : JoinStep, records[i]? = some (.joined step) ∧
      step.table = name := by
  rw [mem_fromTables_iff]
  refine or_congr Iff.rfl (exists_congr fun i ↦ ?_)
  by_cases hi : i < n
  · simp [List.getElem?_take_of_lt hi, hi]
  · have hnone : (records.take n)[i]? = none :=
      List.getElem?_eq_none (by rw [List.length_take]; omega)
    refine iff_of_false ?_ fun h ↦ hi h.1
    rintro ⟨step, hstep, -⟩
    rw [hnone] at hstep
    cases hstep

/-- What is in FROM stays there. -/
theorem fromTables_take_subset (n : ℕ) :
    fromTables base (records.take n) ⊆ fromTables base records := by
  intro name hmem
  rw [mem_fromTables_take_iff] at hmem
  exact mem_fromTables_iff.2 (hmem.imp_right fun ⟨i, _, h⟩ ↦ ⟨i, h⟩)

/-- The record at position `i` joins a table that stands in FROM by then. -/
def JoinsAgain (base : String) (records : List Placement) (name : String) (i : ℕ) : Prop :=
  ∃ step : JoinStep, records[i]? = some (.joined step) ∧ step.table = name ∧
    name ∈ fromTables base (records.take i)

/-- One more record changes nothing about the earlier ones. -/
theorem exists_joinsAgain_concat {p : Placement} :
    (∃ i, JoinsAgain base (records ++ [p]) name i) ↔ (∃ i, JoinsAgain base records name i) ∨
      ∃ step, p = .joined step ∧ step.table = name ∧ name ∈ fromTables base records := by
  constructor
  · rintro ⟨i, step, hi, htable, hmem⟩
    have hlt : i < records.length + 1 := by
      simpa using (List.getElem?_eq_some_iff.1 hi).1
    rcases Nat.lt_or_ge i records.length with hi' | hi'
    · rw [List.getElem?_append_left hi'] at hi
      rw [List.take_append_of_le_length (Nat.le_of_lt hi')] at hmem
      exact .inl ⟨i, step, hi, htable, hmem⟩
    · obtain rfl : i = records.length := by omega
      rw [List.getElem?_concat_length, Option.some.injEq] at hi
      rw [List.take_left] at hmem
      exact .inr ⟨step, hi, htable, hmem⟩
  · rintro (⟨i, step, hi, htable, hmem⟩ | ⟨step, rfl, htable, hmem⟩)
    · have hlt : i < records.length := (List.getElem?_eq_some_iff.1 hi).1
      refine ⟨i, step, ?_, htable, ?_⟩
      · rw [List.getElem?_append_left hlt, hi]
      · rwa [List.take_append_of_le_length (Nat.le_of_lt hlt)]
    · exact ⟨records.length, step, List.getElem?_concat_length, htable, by rwa [List.take_left]⟩

/-- **A table stands in FROM more than once** exactly when it is joined while it is there. -/
theorem one_lt_count_fromTables_iff :
    1 < (fromTables base records).count name ↔ ∃ i, JoinsAgain base records name i := by
  -- the last record is looked at first, since it is judged by all those in front of it
  induction records using List.reverseRecOn with
  | nil =>
    have hle : (fromTables base []).count name ≤ 1 := List.count_le_length
    simpa [JoinsAgain] using hle
  | append_singleton records p ih =>
    rw [exists_joinsAgain_concat, ← ih, fromTables_concat, List.count_append]
    rcases p with step | s
    · by_cases htable : step.table = name
      · have hpos : 0 < (fromTables base records).count name ↔
            name ∈ fromTables base records := List.count_pos_iff
        simp only [Placement.step?, Option.map_some, Option.toList_some, htable,
          List.count_singleton_self, Placement.joined.injEq, exists_eq_left', true_and, ← hpos]
        omega
      · simp [Placement.step?, htable]
    · simp [Placement.step?]

end Growth

/-! ### What the records of a pass say about FROM -/

section Pass

/-- The tables in FROM when the entry at position `i` after the base is placed. -/
def tablesBefore (g : Graph) (default : JoinType) (base : String) (ts : List TableSource) (i : ℕ) :
    List String :=
  fromTables base ((placements g default [base] ts).take i)

variable {g : Graph} {default : JoinType} {base : String} {ts : List TableSource}

/-- The record of an entry follows the declaration, given the tables that are in FROM before it. -/
theorem exists_record (g : Graph) (default : JoinType) (base : String) {i : ℕ} {t : TableSource}
    (h : ts[i]? = some t) :
    ∃ p, (placements g default [base] ts)[i]? = some p ∧ p.FollowsDeclaration g.edges default
      (tablesBefore g default base ts i) t := by
  obtain ⟨hi, rfl⟩ := List.getElem?_eq_some_iff.1 h
  have hbase : Agrees [base] (fromTables base []) := Agrees.refl _
  simpa [tablesBefore] using placements_follow_declaration g default base ts hbase i hi

/-- Every record is that of an entry. -/
theorem exists_entry {i : ℕ} {p : Placement} (h : (placements g default [base] ts)[i]? = some p) :
    ∃ t, ts[i]? = some t ∧ p.FollowsDeclaration g.edges default
      (tablesBefore g default base ts i) t := by
  have hi : i < ts.length := by
    rw [← length_placements g default [base] ts]
    exact (List.getElem?_eq_some_iff.1 h).1
  obtain ⟨q, hq, hfollows⟩ := exists_record g default base (List.getElem?_eq_getElem hi)
  rw [h, Option.some.injEq] at hq
  exact ⟨ts[i], List.getElem?_eq_getElem hi, hq ▸ hfollows⟩

/-- **Only a complete ON condition joins a table again.** -/
theorem joinsAgain_iff {name : String} {i : ℕ} :
    JoinsAgain base (placements g default [base] ts) name i ↔
      ∃ t, ts[i]? = some t ∧ t.name = name ∧ t.explicitSides?.isSome ∧
        name ∈ tablesBefore g default base ts i := by
  constructor
  · rintro ⟨step, hi, htable, hmem⟩
    obtain ⟨t, ht, hfollows⟩ := exists_entry hi
    have hname : step.table = t.name := hfollows.table_eq
    refine ⟨t, ht, hname ▸ htable, ?_, hmem⟩
    -- without a complete condition the table would have been a duplicate
    by_contra hnone
    rw [Option.not_isSome_iff_eq_none] at hnone
    have hduplicate := hfollows.duplicate_iff.2 ⟨hnone, by rwa [← hname, htable]⟩
    cases hduplicate
  · rintro ⟨t, ht, rfl, hsides, hmem⟩
    obtain ⟨⟨left, right⟩, hsides⟩ := Option.isSome_iff_exists.1 hsides
    obtain ⟨p, hp, hfollows⟩ := exists_record g default base ht
    rw [hfollows.explicit_eq left right hsides] at hp
    exact ⟨_, hp, rfl, hmem⟩

/-- **An inferred join brings in a table that is not in FROM yet.** -/
theorem not_mem_of_inferred {before after : List JoinStep} {step : JoinStep}
    (h : (ofBase g default base ts).joins = before ++ step :: after)
    (hinferred : step.explicit = false) : step.table ∉ base :: before.map (·.table) := by
  obtain ⟨records, rest, hrecords, hbefore, hrest⟩ := List.filterMap_eq_append_iff.1 h
  obtain ⟨skipped, p, rest, rfl, hskipped, hp, -⟩ := List.filterMap_eq_cons_iff.1 hrest
  -- the records that are skipped leave FROM as it is
  have htables : fromTables base (records ++ skipped) = base :: before.map (·.table) := by
    rw [fromTables, List.filterMap_append, hbefore, List.filterMap_eq_nil_iff.2 hskipped,
      List.append_nil]
  obtain rfl : p = .joined step := by
    cases p <;> cases hp
    rfl
  have hi : (placements g default [base] ts)[(records ++ skipped).length]? =
      some (.joined step) := by
    rw [hrecords, ← List.append_assoc, List.getElem?_append_right (Nat.le_refl _), Nat.sub_self]
    rfl
  intro hmem
  obtain ⟨t, ht, -, hsides, -⟩ := joinsAgain_iff.1 ⟨step, hi, rfl, by
    rwa [hrecords, ← List.append_assoc, List.take_left, htables]⟩
  -- so the entry has a complete condition, and its join is no inferred one
  obtain ⟨⟨left, right⟩, hsides⟩ := Option.isSome_iff_exists.1 hsides
  obtain ⟨u, hu, hfollows⟩ := exists_entry hi
  obtain rfl : t = u := Option.some.inj (ht.symm.trans hu)
  cases hfollows.explicit_eq left right hsides
  cases hinferred

/-- The entry can be joined when FROM has the given tables: it has a complete ON condition, or a
declared edge links it to one of them. -/
def Joinable (edges : List Edge) (tables : List String) (t : TableSource) : Prop :=
  t.explicitSides?.isSome ∨ ∃ a ∈ tables, ∃ e ∈ edges, e.Relates a t.name

/-- Where an entry is joined, it could be. -/
theorem joinable_of_joined {i : ℕ} {step : JoinStep}
    (h : (placements g default [base] ts)[i]? = some (.joined step)) :
    ∃ t, ts[i]? = some t ∧ step.table = t.name ∧
      Joinable g.edges (tablesBefore g default base ts i) t := by
  obtain ⟨t, ht, hfollows⟩ := exists_entry h
  refine ⟨t, ht, hfollows.table_eq, ?_⟩
  -- otherwise the record would be one of the two reasons to skip
  by_contra hcannot
  rw [Joinable, not_or, Option.not_isSome_iff_eq_none] at hcannot
  obtain ⟨hnone, hunlinked⟩ := hcannot
  by_cases hmem : t.name ∈ tablesBefore g default base ts i
  · cases hfollows.duplicate_iff.2 ⟨hnone, hmem⟩
  · obtain ⟨included, hskipped⟩ := hfollows.unrelated_iff.2
      ⟨hnone, hmem, fun a ha e he hrelates ↦ hunlinked ⟨a, ha, e, he, hrelates⟩⟩
    cases hskipped

/-- Where an entry can be joined, its table is in FROM afterwards, if not before. -/
theorem mem_fromTables_of_joinable {i : ℕ} {t : TableSource} (ht : ts[i]? = some t)
    (h : Joinable g.edges (tablesBefore g default base ts i) t) :
    t.name ∈ fromTables base (placements g default [base] ts) := by
  obtain ⟨p, hp, hfollows⟩ := exists_record g default base ht
  by_cases hmem : t.name ∈ tablesBefore g default base ts i
  · exact fromTables_take_subset i hmem
  · rcases hsides : t.explicitSides? with - | ⟨left, right⟩
    · rcases h with h | h
      · simp [hsides] at h
      · obtain ⟨anchor, e, -, rfl⟩ := hfollows.inferred_eq hsides hmem h
        exact mem_fromTables_iff.2 (.inr ⟨i, _, hp, rfl⟩)
    · rw [hfollows.explicit_eq left right hsides] at hp
      exact mem_fromTables_iff.2 (.inr ⟨i, _, hp, rfl⟩)

/-- **What is skipped as unrelated comes into FROM by a later entry**, or not at all. -/
theorem mem_fromTables_iff_of_unrelated {i : ℕ} {name : String} {included : List String}
    (h : (placements g default [base] ts)[i]? = some (.skipped ⟨name, .unrelated included⟩)) :
    name ∉ tablesBefore g default base ts i ∧
      (name ∈ fromTables base (placements g default [base] ts) ↔
        ∃ j > i, ∃ t, ts[j]? = some t ∧ t.name = name ∧
          Joinable g.edges (tablesBefore g default base ts j) t) := by
  obtain ⟨t, ht, hfollows⟩ := exists_entry h
  obtain rfl : name = t.name := hfollows.table_eq
  have hbefore := (hfollows.unrelated_iff.1 ⟨included, rfl⟩).2.1
  refine ⟨hbefore, fun hmem ↦ ?_, ?_⟩
  · rcases mem_fromTables_iff.1 hmem with hbase | ⟨j, step, hj, htable⟩
    · exact absurd (mem_fromTables_take_iff.2 (.inl hbase)) hbefore
    · obtain ⟨u, hu, hname, hjoinable⟩ := joinable_of_joined hj
      refine ⟨j, ?_, u, hu, by rw [← hname, htable], hjoinable⟩
      rcases Nat.lt_trichotomy i j with hlt | rfl | hlt
      · exact hlt
      · rw [h] at hj
        cases hj
      · exact absurd (mem_fromTables_take_iff.2 (.inr ⟨j, hlt, step, hj, htable⟩)) hbefore
  · rintro ⟨j, -, u, hu, hname, hjoinable⟩
    exact hname ▸ mem_fromTables_of_joinable hu hjoinable

/-- A duplicate is in FROM. -/
theorem mem_fromTables_of_duplicate {i : ℕ} {name : String}
    (h : (placements g default [base] ts)[i]? = some (.skipped ⟨name, .duplicate⟩)) :
    name ∈ tablesBefore g default base ts i := by
  obtain ⟨t, -, hfollows⟩ := exists_entry h
  obtain rfl : name = t.name := hfollows.table_eq
  exact (hfollows.duplicate_iff.1 rfl).2

/-- **Each name is requested as often as it is in FROM and is skipped**, taken together. -/
theorem count_requested (g : Graph) (default : JoinType) (base : String) (ts : List TableSource)
    (name : String) : (base :: ts.map (·.name)).count name =
      (ofBase g default base ts).included.count name +
        ((ofBase g default base ts).skipped.map (·.table)).count name := by
  have hnames : (placements g default [base] ts).map Placement.table = ts.map (·.name) :=
    map_table_placements [base] ts
  rw [← hnames, included, ofBase]
  -- a law of any records: each is about one name and in one of the two places
  generalize placements g default [base] ts = records
  rw [List.count_cons, List.count_cons]
  induction records with
  | nil => simp
  | cons p records ih =>
    cases p with
    | joined step =>
      simp only [List.map_cons, List.filterMap_cons, Placement.table, Placement.step?,
        Placement.skipped?, List.count_cons] at ih ⊢
      omega
    | skipped s =>
      simp only [List.map_cons, List.filterMap_cons, Placement.table, Placement.step?,
        Placement.skipped?, List.count_cons] at ih ⊢
      omega

end Pass

/-! ### Whole plans -/

/-- The line of a FROM clause puts the table there: it is the name of the table, or joins it. There
are no other names for tables. -/
def Names (line table : String) : Prop :=
  line = table ∨ ∃ kind left right,
    line = kind ++ " JOIN " ++ table ++ " ON " ++ left ++ " = " ++ right

/-- Each line of FROM puts one of the included tables there, in order. -/
theorem exists_lines (plan : JoinPlan) : ∃ lines,
    (Sql.FromClause.build plan).sql = "\n".intercalate lines ∧
      List.Forall₂ Names lines plan.included := by
  refine ⟨plan.base :: plan.joins.map JoinStep.sql, rfl, .cons (.inl rfl) ?_⟩
  rw [List.forall₂_map_left_iff, List.forall₂_map_right_iff, List.forall₂_same]
  exact fun step _ ↦ .inr ⟨word step.joinType, step.left, step.right, rfl⟩

/-- **The tables in FROM are distinct unless a complete ON condition joins one again.** A table
stands there more than once exactly when an entry with a complete ON condition names it while it is
there already; the base is the first of them, and an inferred join never repeats one. The lines of
the clause put the included tables there, one by one. -/
theorem resolve?_included_nodup_iff (g : Graph) (default : JoinType) (first : TableSource)
    (rest : List TableSource) :
    ∃ plan, resolve? g default (first :: rest) = some plan ∧
      (∀ name, 1 < plan.included.count name ↔ ∃ (i : ℕ) (t : TableSource), rest[i]? = some t ∧
        t.name = name ∧ t.explicitSides?.isSome ∧
          name ∈ tablesBefore g default first.name rest i) ∧
      (plan.included.Nodup ↔ ∀ (i : ℕ) (t : TableSource), rest[i]? = some t →
        t.explicitSides?.isSome → t.name ∉ tablesBefore g default first.name rest i) ∧
      (∀ before step after, plan.joins = before ++ step :: after → step.explicit = false →
        step.table ∉ plan.base :: before.map (·.table)) ∧
      ∃ lines, (Sql.FromClause.build plan).sql = "\n".intercalate lines ∧
        List.Forall₂ Names lines plan.included := by
  have hcount : ∀ name, 1 < (ofBase g default first.name rest).included.count name ↔
      ∃ (i : ℕ) (t : TableSource), rest[i]? = some t ∧ t.name = name ∧ t.explicitSides?.isSome ∧
        name ∈ tablesBefore g default first.name rest i := fun name ↦
    one_lt_count_fromTables_iff.trans (exists_congr fun _ ↦ joinsAgain_iff)
  refine ⟨_, rfl, hcount, ?_, fun _ _ _ ↦ not_mem_of_inferred, exists_lines _⟩
  rw [List.nodup_iff_count_le_one]
  constructor
  · intro hnodup i t ht hsides hmem
    have hmany := (hcount t.name).2 ⟨i, t, ht, rfl, hsides, hmem⟩
    exact absurd (hnodup t.name) (by omega)
  · intro hfresh name
    by_contra hmany
    obtain ⟨i, t, ht, rfl, hsides, hmem⟩ := (hcount name).1 (by omega)
    exact hfresh i t ht hsides hmem

/-- Stores by a condition of their own, then without one. -/
theorem resolve?_stores_included_nodup :
    ∃ plan, resolve? (.ofEdges []) .inner [{ name := "sales" },
        { name := "stores", on := some ⟨some "sales.store_id", some "stores.id"⟩ },
        { name := "stores" }] = some plan ∧ plan.included.Nodup := by
  obtain ⟨plan, hplan, -, hnodup, -⟩ := resolve?_included_nodup_iff (.ofEdges []) .inner
    { name := "sales" } [
      { name := "stores", on := some ⟨some "sales.store_id", some "stores.id"⟩ },
      { name := "stores" }]
  refine ⟨plan, hplan, hnodup.2 fun i t ht hsides ↦ ?_⟩
  match i, ht with
  | 0, rfl => decide
  | 1, rfl => cases hsides

/-- Stores by two complete conditions stand in FROM twice. -/
theorem resolve?_stores_twice :
    ∃ plan, resolve? (.ofEdges []) .inner [{ name := "sales" },
        { name := "stores", on := some ⟨some "sales.store_id", some "stores.id"⟩ },
        { name := "stores", on := some ⟨some "sales.city", some "stores.city"⟩ }] = some plan ∧
      plan.included = ["sales", "stores", "stores"] ∧ ¬ plan.included.Nodup :=
  ⟨_, rfl, rfl, by decide⟩

end ReportQuery.JoinPlan
