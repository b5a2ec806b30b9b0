import Mathlib.Data.List.TakeWhile
import ReportQuery.Proofs.Report.Acceptance
import ReportQuery.Proofs.Report.DatabaseUse
import ReportQuery.Proofs.Sql.Identifier

/-!
# Keys of the result

The rows of a result are records, with one key for each selected item, so two items with one key
lose a value. A column has its own name as its key, and an aggregate its function and its column,
both with points read as underscores. This file says exactly when the keys of a report are
distinct (`aliases_nodup_iff`) and what the rows are then (`QueryParts.execute_of_answers`).

That the columns are distinct and the aggregates are distinct is not enough: a point and an
underscore at one place give the same key (`collidingRequest`), and a column can be called as the
key of an aggregate. `Report.KeysApart` excludes just these. It follows from distinctness when no
name has an underscore in front of its point and no selected column is one of a table called like a
function (`Report.HasClearNames`): then the first underscore of a key tells where its point was.
-/

namespace ReportQuery

open Sql

/-! ### Keys of single items -/

namespace Sql

/-- The alias of a column that has a name has one too. -/
theorem columnAlias_ne_empty {s : String} (h : s ≠ "") : columnAlias s ≠ "" := by
  intro hempty
  have hlist : s.toList.map underscored = [] := by
    rw [← toList_columnAlias, hempty]
    rfl
  exact h (String.toList_eq_nil_iff.1 (List.map_eq_nil_iff.1 hlist))

/-- An item with an alias has it as its key. -/
theorem resultKey_of_givenAlias {item : SelectItem} {key : String} (h : item.givenAlias = some key)
    (hne : key ≠ "") : item.resultKey = key := by
  have hwritten : item.writtenAlias? = some key := by
    rw [SelectItem.writtenAlias?, h, Option.filter_eq_some_iff]
    exact ⟨rfl, by simpa using hne⟩
  rw [SelectItem.resultKey, hwritten, Option.getD_some]

/-- A column has its alias as its key. -/
theorem resultKey_column {c : String} (h : c ≠ "") : SelectItem.resultKey
    { expression := c, givenAlias := if '.' ∈ c.toList then some (columnAlias c) else none } =
      columnAlias c := by
  by_cases hpoint : '.' ∈ c.toList
  · exact resultKey_of_givenAlias (if_pos hpoint) (columnAlias_ne_empty h)
  · rw [if_neg hpoint, columnAlias_of_not_mem hpoint]
    rfl

/-- An aggregate has its alias as its key. -/
theorem resultKey_aggregate (a : Aggregate) : SelectItem.resultKey
    { expression := a.expression, givenAlias := some a.resultAlias } = a.resultAlias := by
  refine resultKey_of_givenAlias rfl fun hempty ↦ ?_
  have hlist := congrArg String.toList hempty
  simp [Aggregate.resultAlias] at hlist

/-- The keys of a SELECT clause: those of the aggregates, then those of the columns. -/
theorem aliases_build {columns : List String} (aggregates : List Aggregate)
    (h : ∀ c ∈ columns, c ≠ "") : (SelectClause.build columns aggregates).aliases =
      aggregates.map Aggregate.resultAlias ++ columns.map columnAlias := by
  rw [SelectClause.aliases, SelectClause.build, List.map_append, List.map_map, List.map_map]
  refine congrArg₂ _ (List.map_congr_left fun a _ ↦ resultKey_aggregate a)
    (List.map_congr_left fun c hc ↦ resultKey_column (h c hc))

/-! ### When two keys are equal -/

/-- A first occurrence splits a list in one way. -/
theorem append_cons_inj_of_not_mem {α : Type} {a : α} {x₁ x₂ z₁ z₂ : List α} (h₁ : a ∉ x₁)
    (h₂ : a ∉ x₂) (h : x₁ ++ a :: z₁ = x₂ ++ a :: z₂) : x₁ = x₂ ∧ z₁ = z₂ := by
  induction x₁ generalizing x₂ with
  | nil =>
    cases x₂ with
    | nil => exact ⟨rfl, (List.cons.inj h).2⟩
    | cons b x₂ => exact absurd ((List.cons.inj h).1 ▸ List.mem_cons_self) h₂
  | cons b x₁ ih =>
    cases x₂ with
    | nil => exact absurd ((List.cons.inj h).1 ▸ List.mem_cons_self) h₁
    | cons c x₂ =>
      obtain ⟨rfl, htail⟩ := List.cons.inj h
      obtain ⟨rfl, rfl⟩ :=
        ih (List.not_mem_of_not_mem_cons h₁) (List.not_mem_of_not_mem_cons h₂) htail
      exact ⟨rfl, rfl⟩

theorem not_mem_word : ∀ f : AggregateFunction, '_' ∉ (word f).toList := by
  intro f
  cases f <;> decide

theorem word_injective {f f' : AggregateFunction} (h : word f = word f') : f = f' := by
  have hword := AggregateFunction.ofWord?_word f
  rw [h, AggregateFunction.ofWord?_word] at hword
  exact (Option.some.inj hword).symm

/-- The alias of an aggregate is the name of its function, an underscore and the alias of its
column. -/
theorem toList_resultAlias (a : Aggregate) :
    a.resultAlias.toList = (word a.function).toList ++ '_' :: (columnAlias a.column).toList := by
  simp [Aggregate.resultAlias]

/-- The key of an aggregate tells its function: no function has an underscore. -/
theorem resultAlias_eq_iff {a b : Aggregate} : a.resultAlias = b.resultAlias ↔
    a.function = b.function ∧ columnAlias a.column = columnAlias b.column := by
  constructor
  · intro h
    have hlist := congrArg String.toList h
    rw [toList_resultAlias, toList_resultAlias] at hlist
    obtain ⟨hword, hcolumn⟩ :=
      append_cons_inj_of_not_mem (not_mem_word a.function) (not_mem_word b.function) hlist
    exact ⟨word_injective (String.toList_inj.1 hword), String.toList_inj.1 hcolumn⟩
  · rintro ⟨hfunction, hcolumn⟩
    rw [Aggregate.resultAlias, Aggregate.resultAlias, hfunction, hcolumn]

end Sql

/-! ### When all keys are distinct -/

/-- No two selected items of a report read alike when points are read as underscores. -/
structure Report.KeysApart (p : Report) : Prop where
  /-- No two columns do. -/
  columns : p.columns.Pairwise fun c d ↦ columnAlias c ≠ columnAlias d
  /-- No two aggregates with the same function do, by their columns. -/
  aggregates : p.aggregates.Pairwise fun a b ↦
    a.function = b.function → columnAlias a.column ≠ columnAlias b.column
  /-- And no column reads as a function, an underscore and the column that it is applied to. -/
  apart : ∀ a ∈ p.aggregates, ∀ c ∈ p.columns,
    columnAlias c ≠ word a.function ++ "_" ++ columnAlias a.column

/-- **Aliases are distinct exactly when the keys of columns and aggregates are apart.** -/
theorem aliases_nodup_iff {p : Report} (h : ∀ c ∈ p.columns, c ≠ "") :
    (SelectClause.build p.columns p.aggregates).aliases.Nodup ↔ p.KeysApart := by
  have haggregates : (p.aggregates.map Aggregate.resultAlias).Nodup ↔
      p.aggregates.Pairwise fun a b ↦
        a.function = b.function → columnAlias a.column ≠ columnAlias b.column := by
    rw [List.Nodup, List.pairwise_map]
    simp only [ne_eq, resultAlias_eq_iff, not_and]
  have hcolumns : (p.columns.map columnAlias).Nodup ↔
      p.columns.Pairwise fun c d ↦ columnAlias c ≠ columnAlias d := by
    rw [List.Nodup, List.pairwise_map]
  rw [aliases_build p.aggregates h, List.nodup_append, haggregates, hcolumns]
  constructor
  · rintro ⟨ha, hc, hapart⟩
    refine ⟨hc, ha, fun a hmem c hmem' heq ↦ ?_⟩
    exact hapart _ (List.mem_map_of_mem hmem) _ (List.mem_map_of_mem hmem') heq.symm
  · rintro ⟨hc, ha, hapart⟩
    refine ⟨ha, hc, fun key hkey key' hkey' heq ↦ ?_⟩
    obtain ⟨a, hmem, rfl⟩ := List.mem_map.1 hkey
    obtain ⟨c, hmem', rfl⟩ := List.mem_map.1 hkey'
    exact hapart a hmem c hmem' heq.symm

/-! ### Clear names -/

/-- No underscore stands in front of the point of the name, and none at all when it has no point. -/
def IsClear (s : String) : Prop :=
  '_' ∉ s.toList.takeWhile (· ≠ '.')

instance (s : String) : Decidable (IsClear s) :=
  inferInstanceAs (Decidable (_ ∉ _))

/-- All selected and aggregated names are clear, and no selected column is one of a table that is
called like a function of the report. -/
structure Report.HasClearNames (p : Report) : Prop where
  columns : ∀ c ∈ p.columns, IsClear c
  aggregates : ∀ a ∈ p.aggregates, IsClear a.column
  tables : ∀ a ∈ p.aggregates, ∀ c ∈ p.columns,
    ¬ (word a.function).toList ++ ['.'] <+: c.toList

namespace Sql

/-- The characters with a point in place of the first underscore. -/
def pointed : List Char → List Char
  | [] => []
  | c :: cs => if c = '_' then '.' :: cs else c :: pointed cs

theorem pointed_of_not_mem {s : List Char} (h : '_' ∉ s) : pointed s = s := by
  induction s with
  | nil => rfl
  | cons c cs ih =>
    rw [List.mem_cons, not_or] at h
    rw [pointed, if_neg (Ne.symm h.1), ih h.2]

/-- The first underscore becomes a point again. -/
theorem pointed_append_cons {s : List Char} (h : '_' ∉ s) (t : List Char) :
    pointed (s ++ '_' :: t) = s ++ '.' :: t := by
  induction s with
  | nil => exact if_pos rfl
  | cons c cs ih =>
    rw [List.mem_cons, not_or] at h
    rw [List.cons_append, pointed, if_neg (Ne.symm h.1), ih h.2, List.cons_append]

/-- A line of one identifier has at most one point. -/
theorem exists_of_isIdentifierLine {s : String} (h : IsIdentifierLine s) : '.' ∉ s.toList ∨
    ∃ table name, s.toList = table ++ '.' :: name ∧ '.' ∉ table ∧ '.' ∉ name := by
  obtain ⟨identifier, hidentifier, hs⟩ := h
  -- The line feed that may follow the identifier is no point.
  have hending : ∃ ending, s.toList = identifier.toList ++ ending ∧ '.' ∉ ending := by
    rcases hs with rfl | rfl
    · exact ⟨[], (List.append_nil _).symm, List.not_mem_nil⟩
    · exact ⟨['\n'], String.toList_append, by decide⟩
  obtain ⟨ending, hs, hpoint⟩ := hending
  rcases hidentifier with hplain | ⟨table, name, rfl, htable, hname⟩
  · left
    rw [hs, List.mem_append, not_or]
    exact ⟨not_mem_of_isPlainName hplain, hpoint⟩
  · right
    refine ⟨table.toList, name.toList ++ ending, ?_, not_mem_of_isPlainName htable, ?_⟩
    · rw [hs, String.toList_append, String.toList_append]
      simp
    · rw [List.mem_append, not_or]
      exact ⟨not_mem_of_isPlainName hname, hpoint⟩

/-- **The first underscore of the key of a clear name** tells where its point was. -/
theorem pointed_columnAlias {s : String} (h : IsIdentifierLine s) (hclear : IsClear s) :
    pointed (columnAlias s).toList = s.toList := by
  rcases exists_of_isIdentifierLine h with hpoint | ⟨table, name, hs, htable, hname⟩
  · rw [columnAlias_of_not_mem hpoint]
    refine pointed_of_not_mem fun hmem ↦ hclear ?_
    rwa [List.takeWhile_eq_self_iff.2 fun c hc ↦ by simpa using ne_of_mem_of_not_mem hc hpoint]
  · have hunderscore : '_' ∉ table := by
      intro hmem
      refine hclear ?_
      rw [hs, List.takeWhile_append_of_pos
        fun c hc ↦ by simpa using ne_of_mem_of_not_mem hc htable]
      exact List.mem_append_left _ hmem
    rw [toList_columnAlias, hs, List.map_append, List.map_cons, map_underscored_of_not_mem htable,
      map_underscored_of_not_mem hname]
    exact pointed_append_cons hunderscore name

/-- Clear names have different aliases when they are different. -/
theorem columnAlias_inj_of_isClear {s t : String} (hs : IsIdentifierLine s)
    (ht : IsIdentifierLine t) (hsclear : IsClear s) (htclear : IsClear t) :
    columnAlias s = columnAlias t ↔ s = t := by
  refine ⟨fun h ↦ String.toList_inj.1 ?_, congrArg columnAlias⟩
  rw [← pointed_columnAlias hs hsclear, ← pointed_columnAlias ht htclear, h]

/-- A clear name with the key of an aggregate belongs to a table called like the function. -/
theorem prefix_of_columnAlias_eq {s : String} (hs : IsIdentifierLine s) (hclear : IsClear s)
    {f : AggregateFunction} {column : String} (h : columnAlias s = word f ++ "_" ++ column) :
    (word f).toList ++ ['.'] <+: s.toList := by
  refine ⟨column.toList, ?_⟩
  rw [← pointed_columnAlias hs hclear, h]
  simpa using (pointed_append_cons (not_mem_word f) column.toList).symm

end Sql

/-- **Distinct items with clear names** have distinct keys. -/
theorem Report.HasClearNames.keysApart {p : Report} (h : p.HasClearNames) (hp : p.Valid)
    (hcolumns : p.columns.Nodup) (haggregates : p.aggregates.Nodup) : p.KeysApart := by
  have hcolumn : ∀ c ∈ p.columns, IsIdentifierLine c :=
    fun c hc ↦ isIdentifierLine_of_acceptsColumn (hp.columns c hc)
  have haggregate : ∀ a ∈ p.aggregates, IsIdentifierLine a.column :=
    fun a ha ↦ isIdentifierLine_of_acceptsColumn (hp.aggregates a ha)
  constructor
  case columns =>
    refine hcolumns.imp_of_mem fun {c d} hc hd hne heq ↦ hne ?_
    exact (columnAlias_inj_of_isClear (hcolumn c hc) (hcolumn d hd) (h.columns c hc)
      (h.columns d hd)).1 heq
  case aggregates =>
    refine haggregates.imp_of_mem fun {a b} ha hb hne hfunction heq ↦ hne ?_
    have hname := (columnAlias_inj_of_isClear (haggregate a ha) (haggregate b hb)
      (h.aggregates a ha) (h.aggregates b hb)).1 heq
    cases a
    cases b
    cases hfunction
    cases hname
    rfl
  -- a column with the key of an aggregate is one of a table called like the function
  case apart =>
    exact fun a ha c hc heq ↦
      h.tables a ha c hc (prefix_of_columnAlias_eq (hcolumn c hc) (h.columns c hc) heq)

/-! ### Rows -/

/-- Every item of the clause with its cell, under its key. -/
def Sql.SelectClause.row (s : SelectClause) (cells : List Cell) : Row :=
  (s.items.zip cells).map fun (item, cell) ↦ (item.resultKey, cell.exchangeable)

/-- The database answers a statement with this SELECT clause: it does not fail, it reports the keys
as the names of its columns, and each row has a value for each item. -/
structure Database.Answers (db : Database) (binding : Binding) (s : SelectClause) : Prop where
  connects : binding = .engine → db.onConnect = none
  executes : db.onExecute = none
  fetches : db.onFetch = none
  columns : db.columns = s.aliases
  rows : ∀ cells ∈ db.rows, cells.length = s.items.length

/-- **With distinct keys no value is lost:** the record of a row is the row. -/
theorem Database.record_of_nodup {s : SelectClause} (h : s.aliases.Nodup) {cells : List Cell}
    (hlength : cells.length = s.items.length) : Database.record s.aliases cells = s.row cells := by
  have hkeys : ((s.aliases.zip cells).map (Prod.map id Cell.exchangeable)).map (·.1) =
      s.aliases := by
    rw [List.map_map]
    exact List.map_fst_zip (by simp [SelectClause.aliases, hlength])
  have hrecord : Database.record s.aliases cells =
      (s.aliases.zip cells).map (Prod.map id Cell.exchangeable) :=
    Fields.ofPairs_of_nodup (hkeys.symm ▸ h)
  rw [hrecord, SelectClause.aliases, List.zip_map_left, List.map_map]
  rfl

/-- Every row has all cells of the database, each under its alias, when the aliases are distinct. -/
theorem QueryParts.execute_of_answers {parts : QueryParts} {binding : Binding} {db : Database}
    {s : SelectClause} (hdb : db.Answers binding s) (h : s.aliases.Nodup) :
    (parts.execute binding db).outcome =
      .ok { columns := s.aliases, rows := db.rows.map s.row } := by
  have hrows : db.rows.map (Database.record s.aliases) = db.rows.map s.row :=
    List.map_congr_left fun cells hcells ↦ Database.record_of_nodup h (hdb.rows cells hcells)
  have hmeets : ∀ fault, ¬ db.Meets binding fault := by
    rintro fault (hconnect | ⟨-, hexecute⟩ | ⟨-, -, hfetch⟩)
    · nomatch (hdb.connects rfl).symm.trans hconnect
    · nomatch hdb.executes.symm.trans hexecute
    · nomatch hdb.fetches.symm.trans hfetch
  rw [execute_of_not_meets _ hmeets, hdb.columns, hrows]

/-- **When no item of a result is lost.** The keys are distinct exactly when no two selected items
read alike with points as underscores, as it is for distinct items with clear names. Each row of
the result has then one entry for each item, with the value of that item. -/
theorem compile_aliases_nodup_iff (c : Compiler) (r : Request) {compiled : CompiledReport}
    (h : c.compile r = .ok compiled) : ∃ p, r.normalize = .ok p ∧
      (compiled.select.aliases.Nodup ↔ p.KeysApart) ∧
      (p.columns.Nodup → p.aggregates.Nodup → p.HasClearNames → p.KeysApart) ∧
      (p.KeysApart → ∀ binding (db : Database), db.Answers binding compiled.select →
        (compiled.parts.execute binding db).outcome =
          .ok { columns := compiled.select.aliases, rows := db.rows.map compiled.select.row }) := by
  obtain ⟨hvalid, first, rest, htables, rfl⟩ := Request.exists_of_compile h
  have hne : ∀ c ∈ r.flat.columns, c ≠ "" := by
    rintro c hc rfl
    exact absurd (hvalid.flat.columns "" hc) (by decide)
  have hkeys := aliases_nodup_iff hne
  exact ⟨r.flat, Request.normalize_eq_flat hvalid.tables_ne_nil, hkeys,
    fun hcolumns haggregates hclear ↦ hclear.keysApart hvalid.flat hcolumns haggregates,
    fun hapart binding db hdb ↦ QueryParts.execute_of_answers hdb (hkeys.2 hapart)⟩

/-- A request for two columns that differ only in a point and an underscore. -/
def collidingRequest : Request where
  tables := some [.name "sales"]
  columns := some [.name "sales.total", .name "sales_total"]

/-- **Distinct columns can have one key**, and a row of two values has one entry then. -/
theorem compile_collidingRequest : ∃ compiled p,
    Compiler.compile {} collidingRequest = .ok compiled ∧ collidingRequest.normalize = .ok p ∧
      p.columns.Nodup ∧ p.aggregates.Nodup ∧ ¬ compiled.select.aliases.Nodup ∧
      ∃ db : Database, db.Answers .engine compiled.select ∧
        db.rows = [[.value (.int 1), .value (.int 2)]] ∧
        (compiled.parts.execute .engine db).outcome = .ok
          { columns := ["sales_total", "sales_total"]
            rows := [[("sales_total", .value (.int 2))]] } := by
  refine ⟨_, _, rfl, rfl, by decide, by decide, by decide,
    { columns := ["sales_total", "sales_total"]
      rows := [[.value (.int 1), .value (.int 2)]] }, ?_, rfl, by rfl⟩
  exact ⟨fun _ ↦ rfl, rfl, rfl, by rfl, by decide⟩

/-- A request with distinct items and clear names. The underscore behind a point is no matter. -/
def keyedRequest : Request where
  tables := some [.name "sales"]
  columns := some [.name "sales.store_id", .name "day"]
  aggregations := some [{ function := some .sum, column := some "sales.net_total" },
    { function := some .count, column := some "sales.net_total" }]

theorem keyedRequest_rows : ∃ compiled p,
    Compiler.compile {} keyedRequest = .ok compiled ∧ keyedRequest.normalize = .ok p ∧
      p.columns.Nodup ∧ p.aggregates.Nodup ∧ p.HasClearNames ∧ compiled.select.aliases.Nodup ∧
      ∃ db : Database, db.Answers .engine compiled.select ∧
        (compiled.parts.execute .engine db).outcome = .ok
          { columns := ["SUM_sales_net_total", "COUNT_sales_net_total", "sales_store_id", "day"]
            rows := [[("SUM_sales_net_total", .value (.text "9007199254740992")),
              ("COUNT_sales_net_total", .value (.int 3)), ("sales_store_id", .value (.int 7)),
              ("day", .value (.text "Monday"))]] } := by
  have hvalid : keyedRequest.Valid := Request.validate_eq_ok_iff.1 (by rfl)
  have hcompile := hvalid.compile_eq {} rfl
  obtain ⟨p, hp, hkeys, hclear, hrows⟩ := compile_aliases_nodup_iff {} keyedRequest hcompile
  cases hp
  have hnames : keyedRequest.flat.HasClearNames := ⟨by decide, by decide, by decide⟩
  have hapart := hclear (by decide) (by decide) hnames
  refine ⟨_, _, hcompile, rfl, by decide, by decide, hnames, hkeys.2 hapart,
    { columns := ["SUM_sales_net_total", "COUNT_sales_net_total", "sales_store_id", "day"]
      rows := [[.value (.int 9007199254740992), .value (.int 3), .value (.int 7),
        .value (.text "Monday")]] }, ?_, ?_⟩
  · exact ⟨fun _ ↦ rfl, rfl, rfl, by rfl, by decide⟩
  · exact (hrows hapart .engine _ ⟨fun _ ↦ rfl, rfl, rfl, by rfl, by decide⟩).trans (by rfl)

end ReportQuery
