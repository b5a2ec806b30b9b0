import Mathlib.Logic.Basic
import ReportQuery.Proofs.Report.Accounting
import ReportQuery.Proofs.Report.EmbeddedNames

/-!
# Which clauses a statement has

A clause that has nothing to say is not there, and what there is to say is decided in several
places: entries without a name are left out of the flat report, the grouping is decided there, a
clause knows whether it is present, and the statement leaves out empty parts.
`CompiledReport.HasClausesOf` puts the ends together. It says of each clause, by a condition on the
request alone, when it is there, and that it is not blank then (`compile_hasClausesOf`).

## Groupings

A request asks for a grouping by a list, even by an empty one, or by a text that has a segment that
is not blank (`Grouping.IsExplicit`). Only then is the statement grouped as the request says. In
every other case a statement that aggregates is grouped by all its plain columns, so that what it
shows and what it is ordered by are aggregates or are grouped by.
-/

namespace ReportQuery

open Sql

/-! ### Texts that are not blank -/

/-- The text has a character that is not blank. -/
def IsWritten (s : List Char) : Prop :=
  ∃ c ∈ s, Text.isBlank c = false

/-- A text is left over when it is trimmed exactly when something is written in it. -/
theorem trim_ne_nil_iff {s : List Char} : Text.trim s ≠ [] ↔ IsWritten s := by
  rw [ne_eq, Text.trim_eq_nil_iff, IsWritten]
  simp only [not_forall, Bool.not_eq_true, exists_prop]

theorem ne_empty_of_isWritten {s : String} (h : IsWritten s.toList) : s ≠ "" := by
  rintro rfl
  obtain ⟨c, hc, -⟩ := h
  simp at hc

/-- The part of a statement is there exactly when a condition holds, and is not blank then. -/
structure IsPresentWhen (part : String) (condition : Prop) : Prop where
  ne_empty_iff : part ≠ "" ↔ condition
  empty_or_written : part = "" ∨ IsWritten part.toList

/-- A part is present exactly when the condition holds if it is written then and empty otherwise. -/
theorem isPresentWhen_of {part : String} {condition : Prop}
    (hwritten : condition → IsWritten part.toList) (habsent : ¬ condition → part = "") :
    IsPresentWhen part condition := by
  by_cases hcondition : condition
  · have hpart := hwritten hcondition
    exact ⟨iff_of_true (ne_empty_of_isWritten hpart) hcondition, .inr hpart⟩
  · have hempty := habsent hcondition
    exact ⟨iff_of_false (not_not.2 hempty) hcondition, .inl hempty⟩

theorem IsPresentWhen.congr {part : String} {condition other : Prop}
    (h : IsPresentWhen part condition) (hiff : condition ↔ other) : IsPresentWhen part other :=
  ⟨h.ne_empty_iff.trans hiff, h.empty_or_written⟩

/-! ### Texts made of items -/

/-- What is in one of the texts is in all of them together. -/
theorem mem_intercalate {separator t : String} {ts : List String} (ht : t ∈ ts) {c : Char}
    (hc : c ∈ t.toList) : c ∈ (separator.intercalate ts).toList := by
  rw [String.toList_intercalate]
  induction ts with
  | nil => simp at ht
  | cons u ts ih =>
    cases ts with
    | nil => simpa [List.mem_singleton.1 ht] using hc
    | cons v ts =>
      rw [List.map_cons, List.map_cons, List.intercalate_cons_cons, List.mem_append]
      rcases List.mem_cons.1 ht with rfl | ht
      · exact .inl (List.mem_append_left _ hc)
      · exact .inr (ih ht)

/-- A list with a written text in it is written. -/
theorem isWritten_intercalate {separator t : String} {ts : List String} (ht : t ∈ ts)
    (h : IsWritten t.toList) : IsWritten (separator.intercalate ts).toList := by
  obtain ⟨c, hc, hblank⟩ := h
  exact ⟨c, mem_intercalate ht hc, hblank⟩

/-- A text made of items, none of which is blank, is there when there is an item. -/
theorem isPresentWhen_intercalate {α : Type} (separator : String) {items : List α}
    {sql : α → String} (h : ∀ i ∈ items, IsWritten (sql i).toList) :
    IsPresentWhen (separator.intercalate (items.map sql)) (items ≠ []) := by
  refine isPresentWhen_of (fun hne ↦ ?_) fun hnil ↦ ?_
  · obtain ⟨i, rest, rfl⟩ := List.exists_cons_of_ne_nil hne
    exact isWritten_intercalate List.mem_cons_self (h i List.mem_cons_self)
  · rw [not_not.1 hnil]
    rfl

/-! ### Items -/

/-- An accepted column has a character of a name. -/
theorem exists_isColumnPart {column : String} (h : acceptsColumn column = true) :
    ∃ c ∈ column.toList, isColumnPart c = true := by
  obtain ⟨name, ending, hs, hne, hname, -⟩ := exists_of_acceptsColumn h
  obtain ⟨c, t, rfl⟩ := List.exists_cons_of_ne_nil hne
  exact ⟨c, by simp [hs], hname c List.mem_cons_self⟩

/-- The name of an accepted column has something written in it. -/
theorem isWritten_of_acceptsColumn {column : String} (h : acceptsColumn column = true) :
    IsWritten column.toList := by
  obtain ⟨c, hc, hpart⟩ := exists_isColumnPart h
  exact ⟨c, hc, isBlank_of_isColumnPart hpart⟩

/-- The word for a comparison stands in every condition. -/
theorem isWritten_condition {condition : Condition} {comparison : Comparison}
    (h : condition.operator = word comparison) : IsWritten condition.sql.toList := by
  have hword : IsWritten (word comparison).toList := by
    cases comparison <;> exact ⟨_, List.mem_cons_self, by decide⟩
  obtain ⟨c, hc, hblank⟩ := hword
  exact ⟨c, by simp [Condition.sql, h, hc], hblank⟩

theorem isWritten_orderItem (item : OrderItem) : IsWritten item.sql.toList := by
  have hword : IsWritten (word item.direction).toList := by
    cases item.direction <;> exact ⟨_, List.mem_cons_self, by decide⟩
  obtain ⟨c, hc, hblank⟩ := hword
  exact ⟨c, by simp [OrderItem.sql, hc], hblank⟩

/-- Every selected item is an aggregate or a column of the report. -/
theorem exists_mem_items {columns : List String} {aggregates : List Aggregate} {item : SelectItem}
    (h : item ∈ (SelectClause.build columns aggregates).items) :
    (∃ a ∈ aggregates, item.expression = a.expression) ∨ item.expression ∈ columns := by
  rcases List.mem_append.1 h with h | h
  · obtain ⟨a, ha, rfl⟩ := List.mem_map.1 h
    exact .inl ⟨a, ha, rfl⟩
  · obtain ⟨c, hc, rfl⟩ := List.mem_map.1 h
    exact .inr hc

/-- Every selected item has a character of a name, which a star has not. -/
theorem exists_isColumnPart_selectItem {columns : List String} {aggregates : List Aggregate}
    (hcolumns : ∀ c ∈ columns, acceptsColumn c = true)
    (haggregates : ∀ a ∈ aggregates, acceptsColumn a.column = true) {item : SelectItem}
    (h : item ∈ (SelectClause.build columns aggregates).items) :
    ∃ c ∈ item.sql.toList, isColumnPart c = true := by
  have hexpression : ∃ c ∈ item.expression.toList, isColumnPart c = true := by
    rcases exists_mem_items h with ⟨a, ha, heq⟩ | hc
    · obtain ⟨c, hc, hpart⟩ := exists_isColumnPart (haggregates a ha)
      exact ⟨c, by simp [heq, Aggregate.expression, hc], hpart⟩
    · exact exists_isColumnPart (hcolumns _ hc)
  obtain ⟨c, hc, hpart⟩ := hexpression
  refine ⟨c, ?_, hpart⟩
  rw [SelectItem.sql]
  split
  · simp [hc]
  · exact hc

/-! ### Clauses -/

/-- A SELECT is never blank, and a star exactly when nothing is selected. -/
theorem select_presence {columns : List String} {aggregates : List Aggregate}
    (hcolumns : ∀ c ∈ columns, acceptsColumn c = true)
    (haggregates : ∀ a ∈ aggregates, acceptsColumn a.column = true) :
    IsWritten (SelectClause.build columns aggregates).sql.toList ∧
      ((SelectClause.build columns aggregates).sql = "*" ↔ columns = [] ∧ aggregates = []) := by
  have hitems : (SelectClause.build columns aggregates).items = [] ↔
      columns = [] ∧ aggregates = [] := by
    rw [SelectClause.build, List.append_eq_nil_iff, List.map_eq_nil_iff, List.map_eq_nil_iff,
      and_comm]
  rw [← hitems]
  cases hlist : (SelectClause.build columns aggregates).items with
  | nil =>
    rw [SelectClause.sql, hlist]
    exact ⟨⟨'*', by decide, by decide⟩, iff_of_true rfl rfl⟩
  | cons item rest =>
    have hmem : item ∈ (SelectClause.build columns aggregates).items := by simp [hlist]
    obtain ⟨c, hc, hpart⟩ := exists_isColumnPart_selectItem hcolumns haggregates hmem
    have htext : c ∈ (SelectClause.build columns aggregates).sql.toList := by
      rw [SelectClause.sql, hlist]
      exact mem_intercalate List.mem_cons_self hc
    refine ⟨⟨c, htext, isBlank_of_isColumnPart hpart⟩, iff_of_false (fun hstar ↦ ?_) (by simp)⟩
    -- a star has no character of a name
    rw [hstar, show "*".toList = ['*'] from rfl, List.mem_singleton] at htext
    rw [htext] at hpart
    exact absurd hpart (by decide)

/-- Conditions are there when there is one. -/
theorem isPresentWhen_conditions {α : Type} (items : List α) {condition : α → Condition}
    {comparison : α → Comparison} (h : ∀ i, (condition i).operator = word (comparison i)) :
    IsPresentWhen (if !(items.map condition).isEmpty then conjunction (items.map condition) else "")
      (items ≠ []) := by
  rw [conjunction, Compiler.ite_isEmpty_intercalate, List.map_map]
  exact isPresentWhen_intercalate " AND " fun i _ ↦ isWritten_condition (h i)

/-- HAVING is present exactly when it is a text with something written in it, or a list that is not
empty. -/
theorem isPresentWhen_having {having : Option Having} :
    IsPresentWhen (if (HavingClause.build having).isPresent then (HavingClause.build having).sql
      else "") ((∃ s, having = some (.raw s) ∧ IsWritten s.toList) ∨
        ∃ list, having = some (.conditions list) ∧ list ≠ []) := by
  rcases having with - | ⟨list⟩ | ⟨s⟩
  · exact isPresentWhen_of (by simp) fun _ ↦ rfl
  · have hlist := isPresentWhen_conditions list fun c ↦
      (rfl : (Condition.ofGroupCondition c).operator = word c.comparison)
    exact IsPresentWhen.congr hlist (by simp)
  · have hraw : (HavingClause.build (some (.raw s))).isPresent = true ↔ IsWritten s.toList := by
      rw [← trim_ne_nil_iff]
      simp [HavingClause.build, HavingClause.isPresent]
    refine isPresentWhen_of (fun h ↦ ?_) fun h ↦ ?_
    · have hs : IsWritten s.toList := by simpa using h
      rw [if_pos (hraw.2 hs)]
      exact hs
    · exact if_neg fun hpresent ↦ h (.inl ⟨s, rfl, hraw.1 hpresent⟩)

/-! ### Groupings -/

/-- The grouping is asked for: it is a list, or a text with a segment that is not blank. -/
def Grouping.IsExplicit : Grouping → Prop
  | .columns _ => True
  | .text s => ∃ segment ∈ Text.splitAt ',' s.toList, IsWritten segment

/-- A text names columns exactly when it has a segment that is not blank. -/
theorem Grouping.names_text_eq_nil_iff {s : String} :
    (Grouping.text s).names = [] ↔ ¬ (Grouping.text s).IsExplicit := by
  rw [Grouping.names, List.filterMap_eq_nil_iff, Grouping.IsExplicit]
  simp only [List.mem_map, forall_exists_index, and_imp, forall_apply_eq_imp_iff₂,
    ← trim_ne_nil_iff, not_exists, not_and, not_not]
  refine forall₂_congr fun segment _ ↦ ?_
  cases Text.trim segment <;> simp

/-- The columns to group by are those that are asked for, when they are. -/
theorem Request.explicitGroupBy_eq {r : Request} :
    (∀ g, r.groupBy = some g → g.IsExplicit → r.explicitGroupBy = some g.names) ∧
      ((∀ g, r.groupBy = some g → ¬ g.IsExplicit) → r.explicitGroupBy = none) := by
  rw [Request.explicitGroupBy]
  rcases r.groupBy with - | ⟨list⟩ | ⟨s⟩
  · simp
  · simp [Grouping.IsExplicit]
  · have hnames := Grouping.names_text_eq_nil_iff (s := s)
    cases h : (Grouping.text s).names with
    | nil => simp [hnames.1 h, h]
    | cons name rest =>
      have hexplicit : (Grouping.text s).IsExplicit := not_not.1 fun hnot ↦ by
        simp [hnames.2 hnot] at h
      simp [hexplicit, h]

/-- The columns that a flat report is grouped by. -/
theorem Request.groupBy_flat (r : Request) :
    (∀ g, r.groupBy = some g → g.IsExplicit → r.flat.groupBy.getD [] = g.names) ∧
      ((∀ g, r.groupBy = some g → ¬ g.IsExplicit) →
        r.flat.groupBy.getD [] = if r.aggregates = [] then [] else r.selectedColumns) := by
  show (∀ g, _ → _ → (resolveGroupBy _ _ _).getD [] = _) ∧ (_ → (resolveGroupBy _ _ _).getD [] = _)
  constructor
  · intro g hg hexplicit
    rw [Request.explicitGroupBy_eq.1 g hg hexplicit]
    rfl
  · intro hnone
    rw [Request.explicitGroupBy_eq.2 hnone, resolveGroupBy.eq_def]
    cases r.aggregates <;> cases r.selectedColumns <;> rfl

/-! ### Statements -/

/-- The clauses that a statement need not have, with their keywords. -/
def QueryParts.optional (p : QueryParts) : List (String × String) :=
  [("WHERE", p.filter), ("GROUP BY", p.groupBy), ("HAVING", p.having), ("ORDER BY", p.orderBy)]

/-- The lines of a statement are those of its clauses that are not empty. -/
theorem QueryParts.lines_eq (p : QueryParts) :
    p.lines = ("SELECT " ++ p.select) :: ("FROM " ++ p.source) ::
      (p.optional.filter (·.2 ≠ "")).map fun clause ↦ clause.1 ++ " " ++ clause.2 := by
  have hlines : ∀ clauses : List (String × String),
      (clauses.map fun clause ↦ line? clause.1 clause.2).filterMap id =
        (clauses.filter (·.2 ≠ "")).map fun clause ↦ clause.1 ++ " " ++ clause.2 := by
    intro clauses
    induction clauses with
    | nil => rfl
    | cons clause clauses ih =>
      rw [List.map_cons, List.filterMap_cons, ih, line?]
      by_cases h : clause.2 = "" <;> simp [h]
  rw [← hlines]
  rfl

/-- Which clauses a statement has, and what it is grouped by, said of its request. -/
structure CompiledReport.HasClausesOf (compiled : CompiledReport) (r : Request) : Prop where
  /-- SELECT and FROM come first, then the other clauses that are not empty, in their order. -/
  sql : compiled.sql = "\n".intercalate (("SELECT " ++ compiled.parts.select) ::
    ("FROM " ++ compiled.parts.source) :: (compiled.parts.optional.filter (·.2 ≠ "")).map
      fun clause ↦ clause.1 ++ " " ++ clause.2) ++ ";"
  select : IsWritten compiled.parts.select.toList
  source : IsWritten compiled.parts.source.toList
  /-- A star stands for every column when neither a column nor an aggregate is asked for. -/
  star : compiled.parts.select = "*" ↔ r.selectedColumns = [] ∧ r.aggregates = []
  filter : IsPresentWhen compiled.parts.filter (r.filters.getD [] ≠ [])
  having : IsPresentWhen compiled.parts.having
    ((∃ s, r.having = some (.raw s) ∧ IsWritten s.toList) ∨
      ∃ list, r.having = some (.conditions list) ∧ list ≠ [])
  orderBy : IsPresentWhen compiled.parts.orderBy
    (∃ o ∈ r.orderBy.getD [], ∃ c ∈ r.selectedColumns, o.column = some c)
  groupBy : IsPresentWhen compiled.parts.groupBy (compiled.groupBy.columns ≠ [])
  groupBy_sql : compiled.parts.groupBy = ", ".intercalate compiled.groupBy.columns
  /-- A grouping that is asked for is the one of the statement. -/
  explicit : ∀ g, r.groupBy = some g → g.IsExplicit → compiled.groupBy.columns = g.names
  /-- Without one, a statement with aggregates is grouped by its plain columns. -/
  derived : (∀ g, r.groupBy = some g → ¬ g.IsExplicit) →
    compiled.groupBy.columns = if r.aggregates = [] then [] else r.selectedColumns
  /-- And what it shows and is ordered by are aggregates or is grouped by. -/
  grouped : (∀ g, r.groupBy = some g → ¬ g.IsExplicit) → r.aggregates ≠ [] →
    (∀ item ∈ compiled.select.items, (∃ a ∈ r.aggregates, item.expression = a.expression) ∨
      item.expression ∈ compiled.groupBy.columns) ∧
    ∀ item ∈ compiled.orderBy.items, item.column ∈ compiled.groupBy.columns

namespace Compiler

variable {r : Request}

/-- An entry is shown when it names a selected column, of which none is without a name. -/
theorem isShown_iff {o : OrderEntry} :
    o.isShown r.selectedColumns = true ↔ ∃ c ∈ r.selectedColumns, o.column = some c := by
  rw [OrderEntry.isShown, Option.any_eq_true]
  constructor
  · rintro ⟨c, hc, hshown⟩
    exact ⟨c, (of_decide_eq_true hshown).2, hc⟩
  · rintro ⟨c, hc, hcolumn⟩
    exact ⟨c, hcolumn, decide_eq_true ⟨(Request.mem_selectedColumns_iff.1 hc).1, hc⟩⟩

/-- ORDER BY is present exactly when an entry orders by a column that is shown. -/
theorem isPresentWhen_orderBy (entries : List OrderEntry) :
    IsPresentWhen (", ".intercalate
        ((OrderByClause.build entries r.selectedColumns).items.map OrderItem.sql))
      (∃ o ∈ entries, ∃ c ∈ r.selectedColumns, o.column = some c) := by
  refine (isPresentWhen_intercalate ", " fun item _ ↦ isWritten_orderItem item).congr ?_
  rw [items_build, ne_eq, List.map_eq_nil_iff, List.filter_eq_nil_iff]
  simp only [isShown_iff, not_forall, not_not, exists_prop]

/-- **A statement has the clauses that its request has something to say in**, none of them blank,
and is grouped as asked for or by all its plain columns. -/
theorem compile_hasClausesOf (c : Compiler) (r : Request) {compiled : CompiledReport}
    (h : c.compile r = .ok compiled) : compiled.HasClausesOf r := by
  obtain ⟨hvalid, first, rest, htables, rfl⟩ := Request.exists_of_compile h
  have hselect := select_presence hvalid.flat.columns hvalid.flat.aggregates
  have hbase : acceptsTable first.toSource.name = true :=
    (hvalid.tables first (by simp [htables])).name
  have hgrouped : ∀ c ∈ r.flat.groupBy.getD [], acceptsColumn c = true := by
    intro name hname
    cases hgroup : r.flat.groupBy with
    | none => simp [hgroup] at hname
    | some names =>
      rw [hgroup] at hname
      exact hvalid.flat.groupBy names hgroup name hname
  have hgroupBy := ite_isEmpty_intercalate ", " (r.flat.groupBy.getD []) id
  rw [List.map_id] at hgroupBy
  constructor
  case sql =>
    rw [← QueryParts.lines_eq]
    rfl
  case select => exact hselect.1
  case source =>
    have hcolumn := acceptsColumn_iff.2 (isIdentifierLine_of_acceptsTable hbase)
    exact isWritten_intercalate List.mem_cons_self (isWritten_of_acceptsColumn hcolumn)
  case star => exact hselect.2
  case filter =>
    exact isPresentWhen_conditions (r.filters.getD []) fun f ↦
      (rfl : (Condition.ofFilter c.dateFormat f).operator = word f.comparison)
  case having => exact isPresentWhen_having
  case orderBy =>
    have horder := isPresentWhen_orderBy (r := r) (r.orderBy.getD [])
    rw [← ite_isEmpty_intercalate] at horder
    exact horder
  case groupBy =>
    have hwritten : ∀ c ∈ r.flat.groupBy.getD [], IsWritten (id c).toList :=
      fun c hc ↦ isWritten_of_acceptsColumn (hgrouped c hc)
    have hcolumns := isPresentWhen_intercalate ", " hwritten
    rw [← ite_isEmpty_intercalate, List.map_id] at hcolumns
    exact hcolumns
  case groupBy_sql => exact hgroupBy
  case explicit => exact r.groupBy_flat.1
  case derived => exact r.groupBy_flat.2
  -- without an explicit grouping the columns group, and they are all that is shown
  case grouped =>
    intro hnone haggregates
    have hcolumns : r.flat.groupBy.getD [] = r.selectedColumns := by
      rw [r.groupBy_flat.2 hnone, if_neg haggregates]
    show (∀ item ∈ _, _ ∨ _ ∈ r.flat.groupBy.getD []) ∧ ∀ item ∈ _, _ ∈ r.flat.groupBy.getD []
    rw [hcolumns]
    exact ⟨fun item hitem ↦ exists_mem_items hitem, fun item hitem ↦ mem_of_mem_orderBy hitem⟩

/-- A request with an aggregate and a column, and with little to say otherwise: a column without a
name, an aggregation without a column, no filters in their list, a blank text in place of conditions
on groups, an ordering by nothing that is shown, and a grouping by blank segments. -/
def sparseRequest : Request where
  tables := some [.name "sales"]
  columns := some [.name "sales.store_id", .name "", .absent]
  aggregations := some [{ function := some .sum, column := some "sales.total" },
    { function := some .avg }]
  filters := some []
  having := some (.raw " \n")
  orderBy := some [{ column := some "sales.total" }, {}]
  groupBy := some (.text " , ")

theorem compile_sparseRequest : ∃ compiled,
    ({} : Compiler).compile sparseRequest = .ok compiled ∧ compiled.HasClausesOf sparseRequest ∧
      compiled.parts.optional.filter (·.2 ≠ "") = [("GROUP BY", "sales.store_id")] := by
  have hvalid : sparseRequest.Valid := Request.validate_eq_ok_iff.1 (by rfl)
  have hcompile := hvalid.compile_eq {} rfl
  exact ⟨_, hcompile, compile_hasClausesOf {} sparseRequest hcompile, by decide⟩

end Compiler

end ReportQuery
