import ReportQuery.Proofs.Checked
import ReportQuery.Proofs.Document
import ReportQuery.Proofs.Report.Normalization
import ReportQuery.Proofs.Request.GroupingText
import ReportQuery.Request.Decode

/-!
# Shorthand in requests

A request may name a table or a column by a bare text or by a record with that one field, and a
grouping by a list or by a text. A document is **respelled** when some of its entries are exchanged
in this way, in either direction (`Respelled`). The respelled document is read wherever the first
one is, and the two requests compile to the same report or fail for the same reason, under every
compiler (`Respelled.compiles_alike`).

The argument has two halves, which meet in `Request.Alike`. Compiling sees a request only through
its table sources, the names of its columns and the names of its grouping, and these are what alike
requests share (`Request.Alike.compile_eq`). And reading keeps the relation from part to part
(`Request.follows_ofValue`), with the combinators of `Checked.Follows`.
-/

namespace ReportQuery

open Checked

/-! ### Requests that differ in form -/

/-- The groupings have the same names, and differ only when there are some. -/
def Grouping.Alike (g g' : Grouping) : Prop :=
  g = g' ∨ g.names = g'.names ∧ g.names ≠ []

/-- The requests differ only in how they name their tables, columns and groupings. -/
structure Request.Alike (r r' : Request) : Prop where
  tables : Option.Rel (List.Forall₂ fun e e' ↦ e.toSource = e'.toSource) r.tables r'.tables
  joinType : r.joinType = r'.joinType
  columns : Option.Rel (List.Forall₂ fun e e' ↦ e.column? = e'.column?) r.columns r'.columns
  aggregations : r.aggregations = r'.aggregations
  filters : r.filters = r'.filters
  having : r.having = r'.having
  orderBy : r.orderBy = r'.orderBy
  groupBy : Option.Rel Grouping.Alike r.groupBy r'.groupBy

/-- Optional lists whose elements have the same image have the same list of images. -/
theorem map_getD_eq_of_rel {α β : Type} {f : α → β} {o o' : Option (List α)}
    (h : Option.Rel (List.Forall₂ fun a a' ↦ f a = f a') o o') :
    (o.getD []).map f = (o'.getD []).map f := by
  cases h with
  | none => rfl
  | some h =>
    rw [Option.getD_some, Option.getD_some, ← List.forall₂_eq_eq_eq, List.forall₂_map_left_iff,
      List.forall₂_map_right_iff]
    exact h

namespace Request

/-- The rule for tables sees their sources. -/
theorem tableViolations_eq (r : Request) : r.tableViolations =
    match (r.tables.getD []).map TableEntry.toSource with
    | [] => [.noTables]
    | ts => ts.flatMap TableSource.violations := by
  rw [tableViolations]
  cases r.tables.getD [] with
  | nil => rfl
  | cons t ts => simp only [List.map_cons, List.flatMap_cons, List.flatMap_map]

/-- The flat report sees the sources of the tables, the names of the columns and the grouping that
is asked for. -/
theorem normalize_eq (r : Request) : r.normalize =
    match (r.tables.getD []).map TableEntry.toSource with
    | [] => .error .noTables
    | ts => .ok {
        tables := ts
        joinType := r.joinType
        columns := r.selectedColumns
        aggregates := r.aggregates
        filters := r.filters.getD []
        having := r.having
        orderBy := r.orderBy.getD []
        groupBy := Sql.resolveGroupBy r.explicitGroupBy r.selectedColumns
          (!r.aggregates.isEmpty) } := by
  rw [normalize]
  cases r.tables.getD [] <;> rfl

/-- A grouping that has names is asked for. -/
theorem explicitGroupBy_of_names_ne_nil {r : Request} {g : Grouping} (hg : r.groupBy = some g)
    (h : g.names ≠ []) : r.explicitGroupBy = some g.names := by
  rw [explicitGroupBy, hg]
  cases g with
  | columns list => rfl
  | text s =>
    cases hnames : (Grouping.text s).names with
    | nil => exact absurd hnames h
    | cons name names => simp only [hnames]

namespace Alike

variable {r r' : Request}

theorem map_toSource (h : r.Alike r') : (r.tables.getD []).map TableEntry.toSource =
    (r'.tables.getD []).map TableEntry.toSource :=
  map_getD_eq_of_rel h.tables

theorem map_column? (h : r.Alike r') : (r.columns.getD []).map ColumnEntry.column? =
    (r'.columns.getD []).map ColumnEntry.column? :=
  map_getD_eq_of_rel h.columns

/-- Either none of them asks for a grouping, or both do, by the same names. -/
theorem groupBy_cases (h : r.Alike r') : (r.groupBy = none ∧ r'.groupBy = none) ∨
    ∃ g g', r.groupBy = some g ∧ r'.groupBy = some g' ∧ g.names = g'.names ∧ g.Alike g' := by
  have hgroupBy := h.groupBy
  rcases hr : r.groupBy with - | g <;> rcases hr' : r'.groupBy with - | g' <;>
    rw [hr, hr'] at hgroupBy
  case none.none => exact .inl ⟨rfl, rfl⟩
  case none.some => cases hgroupBy
  case some.none => cases hgroupBy
  case some.some =>
    cases hgroupBy with
    | some hg => exact .inr ⟨g, g', rfl, rfl, hg.elim (congrArg Grouping.names) And.left, hg⟩

/-- Alike requests ask for the same grouping. -/
theorem explicitGroupBy_eq (h : r.Alike r') : r.explicitGroupBy = r'.explicitGroupBy := by
  rcases h.groupBy_cases with ⟨hr, hr'⟩ | ⟨g, g', hr, hr', -, rfl | ⟨hnames, hne⟩⟩
  · rw [explicitGroupBy, explicitGroupBy, hr, hr']
  · rw [explicitGroupBy, explicitGroupBy, hr, hr']
  · rw [explicitGroupBy_of_names_ne_nil hr hne,
      explicitGroupBy_of_names_ne_nil hr' (hnames ▸ hne), hnames]

/-- Alike requests select the same columns. -/
theorem selectedColumns_eq (h : r.Alike r') : r.selectedColumns = r'.selectedColumns := by
  have hcolumns := congrArg (List.filterMap (Option.filter (· ≠ ""))) h.map_column?
  rw [List.filterMap_map, List.filterMap_map] at hcolumns
  exact hcolumns

/-- Alike requests break the same rules, in the same order. -/
theorem violations_eq (h : r.Alike r') : r.violations = r'.violations := by
  have htables : r.tableViolations = r'.tableViolations := by
    rw [tableViolations_eq, tableViolations_eq, h.map_toSource]
  have hcolumns := congrArg (List.flatMap (checkOptionalColumn .selected)) h.map_column?
  rw [List.flatMap_map, List.flatMap_map] at hcolumns
  rw [violations, violations, htables, hcolumns, h.aggregations, h.filters, h.having, h.orderBy]
  rcases h.groupBy_cases with ⟨hr, hr'⟩ | ⟨g, g', hr, hr', hnames, -⟩
  · rw [hr, hr']
  · simp only [hr, hr', hnames]

/-- Alike requests have the same flat report. -/
theorem normalize_eq (h : r.Alike r') : r.normalize = r'.normalize := by
  rw [Request.normalize_eq, Request.normalize_eq, h.map_toSource, h.joinType, h.selectedColumns_eq,
    aggregates, aggregates, h.aggregations, h.filters, h.having, h.orderBy, h.explicitGroupBy_eq]

/-- **Alike requests compile alike**, or fail for the same reason. -/
theorem compile_eq (h : r.Alike r') (c : Compiler) : c.compile r = c.compile r' :=
  c.compile_congr (by rw [validate, validate, h.violations_eq]) h.normalize_eq

end Alike

end Request

/-! ### Documents that are respelled -/

/-- An entry of a list as it is, or a bare text exchanged with a record that has the text as its
only field. -/
inductive RespelledEntry (key : String) : Value → Value → Prop
  | same (v : Value) : RespelledEntry key v v
  | expanded (s : String) : RespelledEntry key (.text s) (.record [(key, .text s)])
  | shortened (s : String) : RespelledEntry key (.record [(key, .text s)]) (.text s)

/-- The lists of a request that have shorthand, each with the field that its entries may have. -/
def shorthandFields : List (String × String) :=
  [("tables", "name"), ("columns", "column")]

/-- The keys of a grouping. -/
def groupingKeys : List String :=
  ["groupBy", "group_by"]

/-- What may stand under a key of a request in the place of something else: tables and columns whose
entries are respelled, and a grouping by at least one name as a list or as a text. -/
inductive RespelledAt : String → Value → Value → Prop
  | same (key : String) (v : Value) : RespelledAt key v v
  | entries {key field : String} {vs vs' : List Value}
      (hkey : shorthandFields.lookup key = some field)
      (h : List.Forall₂ (RespelledEntry field) vs vs') : RespelledAt key (.list vs) (.list vs')
  | listToText {key : String} {names : List String} {segments : List (List Char)}
      (hkey : key ∈ groupingKeys) (hne : names ≠ [])
      (hnames : ∀ name ∈ names, IsColumnName name.toList) (h : SpelledBy segments names) :
      RespelledAt key (.list (names.map .text)) (.text (groupingText segments))
  | textToList {key : String} {names : List String} {segments : List (List Char)}
      (hkey : key ∈ groupingKeys) (hne : names ≠ [])
      (hnames : ∀ name ∈ names, IsColumnName name.toList) (h : SpelledBy segments names) :
      RespelledAt key (.text (groupingText segments)) (.list (names.map .text))

/-- The document of a request with some of its parts respelled. -/
inductive Respelled : Value → Value → Prop
  | record {fields fields' : List (String × Value)} (h : SameKeys RespelledAt fields fields') :
      Respelled (.record fields) (.record fields')

/-- A grouping is no list with shorthand. -/
theorem lookup_shorthandFields_of_grouping {key : String} (h : key ∈ groupingKeys) :
    shorthandFields.lookup key = none := by
  rcases List.mem_pair.1 h with rfl | rfl <;> rfl

namespace RespelledAt

variable {key field : String} {v v' : Value}

/-- Under the key of a list with shorthand, only its entries are respelled. -/
theorem entries_cases (h : RespelledAt key v v') (hkey : shorthandFields.lookup key = some field) :
    v = v' ∨ ∃ vs vs', v = .list vs ∧ v' = .list vs' ∧
      List.Forall₂ (RespelledEntry field) vs vs' := by
  have hapart : key ∉ groupingKeys := fun hgrouping ↦ by
    rw [lookup_shorthandFields_of_grouping hgrouping] at hkey
    cases hkey
  cases h with
  | same => exact .inl rfl
  | entries hkey' h =>
    obtain rfl := Option.some.inj (hkey.symm.trans hkey')
    exact .inr ⟨_, _, rfl, rfl, h⟩
  | listToText hgrouping => exact absurd hgrouping hapart
  | textToList hgrouping => exact absurd hgrouping hapart

/-- Other fields are not respelled. -/
theorem eq_of_not_mem (h : RespelledAt key v v') (hlists : shorthandFields.lookup key = none)
    (hgrouping : key ∉ groupingKeys) : v = v' := by
  cases h with
  | same => rfl
  | entries hkey =>
    rw [hlists] at hkey
    cases hkey
  | listToText hkey => exact absurd hkey hgrouping
  | textToList hkey => exact absurd hkey hgrouping

end RespelledAt

/-! ### Reading respelled documents -/

/-- An entry is read from a bare text and from the record with that text as its only field, and the
two have the same image. -/
def ReadsShorthand {α β : Type} (f : α → β) (field : String) (check : Value → Checked α) : Prop :=
  ∀ s, ∃ a a', check (.text s) = .ok a ∧ check (.record [(field, .text s)]) = .ok a' ∧ f a = f a'

/-- A table is read from both forms with the same source. -/
theorem TableEntry.readsShorthand : ReadsShorthand TableEntry.toSource "name" TableEntry.ofValue :=
  fun s ↦ ⟨.name s, .source { name := s }, rfl, rfl, rfl⟩

/-- A column is read from both forms with the same name. -/
theorem ColumnEntry.readsShorthand :
    ReadsShorthand ColumnEntry.column? "column" ColumnEntry.ofValue :=
  fun s ↦ ⟨.name s, .item (some s), rfl, rfl, rfl⟩

/-- **A respelled entry is read with the same image**, in either direction. -/
theorem ReadsShorthand.follows {α β : Type} {f : α → β} {field : String}
    {check : Value → Checked α} (h : ReadsShorthand f field check) {v v' : Value}
    (hentry : RespelledEntry field v v') :
    Follows (fun a a' ↦ f a = f a') (check v) (check v') := by
  cases hentry with
  | same => exact .refl (fun a ↦ Eq.refl (f a)) _
  | expanded s =>
    obtain ⟨a, a', ha, ha', himage⟩ := h s
    rw [ha, ha']
    exact .ok himage
  | shortened s =>
    obtain ⟨a, a', ha, ha', himage⟩ := h s
    rw [ha, ha']
    exact .ok himage.symm

/-- A list whose entries are respelled is read entry by entry. -/
theorem follows_entries {α β : Type} {f : α → β} {check : Value → Checked α} {key field : String}
    {fields fields' : List (String × Value)} (h : SameKeys RespelledAt fields fields')
    (hkey : shorthandFields.lookup key = some field)
    (hcheck : ReadsShorthand f field check) :
    Follows (Option.Rel (List.Forall₂ fun a a' ↦ f a = f a'))
      (Checked.optional [key] none (nullable (Checked.list check)) fields)
      (Checked.optional [key] none (nullable (Checked.list check)) fields') := by
  refine .optional h (fun k hk v v' hv ↦ ?_) .none
  obtain rfl := List.mem_singleton.1 hk
  rcases hv.entries_cases hkey with rfl | ⟨vs, vs', rfl, rfl, hvs⟩
  · refine .refl (fun o ↦ ?_) _
    cases o with
    | none => exact .none
    | some as => exact .some (List.forall₂_same.2 fun _ _ ↦ rfl)
  · exact (Follows.list (fun _ _ hv ↦ hcheck.follows hv) hvs).map fun _ _ ↦ .some

theorem Grouping.ofValue_list (names : List String) :
    nullable ofValue (.list (names.map .text)) = .ok (some (.columns names)) := by
  have hlist : Checked.list Checked.text (.list (names.map .text)) = .ok names :=
    list_ofParts fun _ _ ↦ rfl
  show (ofValue (.list (names.map .text))).map some = _
  rw [ofValue, named, hlist]
  rfl

theorem Grouping.ofValue_text (s : String) :
    nullable ofValue (.text s) = .ok (some (.text s)) :=
  rfl

/-- A grouping is read from both forms with the same names. -/
theorem Grouping.follows_ofValue {key : String} (hkey : key ∈ groupingKeys) {v v' : Value}
    (h : RespelledAt key v v') :
    Follows (Option.Rel Alike) (nullable ofValue v) (nullable ofValue v') := by
  cases h with
  | same =>
    refine .refl (fun o ↦ ?_) _
    cases o with
    | none => exact .none
    | some g => exact .some (.inl rfl)
  | entries hlist =>
    rw [lookup_shorthandFields_of_grouping hkey] at hlist
    cases hlist
  | @listToText names segments _ hne hnames h =>
    have hlist := Grouping.names_columns hnames
    rw [ofValue_list, ofValue_text]
    exact .ok (.some (.inr ⟨hlist.trans (h.names_text hnames).symm, hlist.symm ▸ hne⟩))
  | @textToList names segments _ hne hnames h =>
    have htext := h.names_text hnames
    rw [ofValue_list, ofValue_text]
    exact .ok (.some (.inr ⟨htext.trans (Grouping.names_columns hnames).symm, htext.symm ▸ hne⟩))

/-- A part that is not respelled is read as before. -/
theorem follows_unchanged {α : Type} {keys : List String} {fallback : α}
    {check : Value → Checked α} {fields fields' : List (String × Value)}
    (h : SameKeys RespelledAt fields fields')
    (hkeys : ∀ key ∈ keys, shorthandFields.lookup key = none ∧ key ∉ groupingKeys) :
    Follows Eq (Checked.optional keys fallback check fields)
      (Checked.optional keys fallback check fields') := by
  refine .optional h (fun key hkey v v' hv ↦ ?_) rfl
  obtain ⟨hlists, hgrouping⟩ := hkeys key hkey
  rw [hv.eq_of_not_mem hlists hgrouping]
  exact .refl Eq.refl _

/-- **Reading keeps what compiling sees.** A respelled document is read wherever the first one is,
as an alike request. -/
theorem Request.follows_ofValue {v v' : Value} (h : Respelled v v') :
    Follows Alike (ofValue v) (ofValue v') := by
  obtain @⟨fields, fields', h⟩ := h
  have htables := follows_entries h (show shorthandFields.lookup "tables" = some "name" from rfl)
    TableEntry.readsShorthand
  have hcolumns := follows_entries h
    (show shorthandFields.lookup "columns" = some "column" from rfl)
    ColumnEntry.readsShorthand
  have hgroupBy : Follows (Option.Rel Grouping.Alike)
      (Checked.optional groupingKeys none (nullable Grouping.ofValue) fields)
      (Checked.optional groupingKeys none (nullable Grouping.ofValue) fields') :=
    .optional h (fun _ hkey _ _ hv ↦ Grouping.follows_ofValue hkey hv) .none
  -- the eight parts in the order in which they are read
  refine (htables.both <| (follows_unchanged h (by decide)).both <| hcolumns.both <|
    (follows_unchanged h (by decide)).both <| (follows_unchanged h (by decide)).both <|
    (follows_unchanged h (by decide)).both <| (follows_unchanged h (by decide)).both
    hgroupBy).bind ?_
  rintro ⟨tables, joinType, columns, aggregations, filters, having, orderBy, groupBy⟩
    ⟨tables', joinType', columns', aggregations', filters', having', orderBy', groupBy'⟩
    ⟨ht, hj, hc, ha, hf, hh, ho, hg⟩
  exact .ok ⟨ht, hj, hc, ha, hf, hh, ho, hg⟩

/-- **Shorthand and its expansion mean the same.** A respelled document of a request is read again,
and under every compiler the two requests compile to the same report, or fail for the same
reason. -/
theorem Respelled.compiles_alike {v v' : Value} {r : Request} (h : Respelled v v')
    (hr : Request.ofValue v = .ok r) :
    ∃ r', Request.ofValue v' = .ok r' ∧ ∀ c : Compiler, c.compile r' = c.compile r := by
  obtain ⟨r', hr', halike⟩ := Request.follows_ofValue h r hr
  exact ⟨r', hr', fun c ↦ (halike.compile_eq c).symm⟩

/-- A document with a bare table, a bare column and a list to group by. -/
def listedDocument : Value := .record [
  ("tables", .list [.text "sales", .record [("name", .text "stores")]]),
  ("columns", .list [.record [("column", .text "stores.city")], .text "sales.id"]),
  ("groupBy", .list [.text "stores.city", .text "id"])]

/-- The same document with the other forms throughout. -/
def writtenDocument : Value := .record [
  ("tables", .list [.record [("name", .text "sales")], .text "stores"]),
  ("columns", .list [.text "stores.city", .record [("column", .text "sales.id")]]),
  ("groupBy", .text " stores.city\t,, id")]

theorem respelled_listedDocument : Respelled listedDocument writtenDocument := by
  have hcity : IsColumnName "stores.city".toList :=
    .inr ⟨"stores".toList, "city".toList, by decide, by decide, by decide⟩
  have hid : IsColumnName "id".toList := .inl (by decide)
  have hblank : IsBlank [] := List.forall_mem_nil _
  have hspace : IsBlank [' '] := List.forall_mem_singleton.2 (by decide)
  have htab : IsBlank ['\t'] := List.forall_mem_singleton.2 (by decide)
  have hsegments : SpelledBy [" stores.city\t".toList, [], " id".toList] ["stores.city", "id"] :=
    @SpelledBy.name _ _ "stores.city" _ _ hspace htab
      (.blank hblank (@SpelledBy.name _ _ "id" _ _ hspace hblank .nil))
  have hnames : ∀ name ∈ ["stores.city", "id"], IsColumnName name.toList :=
    List.forall_mem_cons.2 ⟨hcity, List.forall_mem_singleton.2 hid⟩
  have hgroupBy : RespelledAt "groupBy" (.list (["stores.city", "id"].map .text))
      (.text (groupingText [" stores.city\t".toList, [], " id".toList])) :=
    .listToText (by decide) (by decide) hnames hsegments
  have htext : groupingText [" stores.city\t".toList, [], " id".toList] =
      " stores.city\t,, id" := by
    decide
  rw [htext] at hgroupBy
  exact .record (.cons ⟨rfl, .entries rfl (.cons (.expanded _) (.cons (.shortened _) .nil))⟩
    (.cons ⟨rfl, .entries rfl (.cons (.shortened _) (.cons (.expanded _) .nil))⟩
      (.cons ⟨rfl, hgroupBy⟩ .nil)))

theorem compile_writtenDocument : ∃ r r', Request.ofValue listedDocument = .ok r ∧
    Request.ofValue writtenDocument = .ok r' ∧ ∀ c : Compiler, c.compile r' = c.compile r := by
  have hr : Request.ofValue listedDocument = .ok {
      tables := some [.name "sales", .source { name := "stores" }]
      columns := some [.item (some "stores.city"), .name "sales.id"]
      groupBy := some (.columns ["stores.city", "id"]) } := by
    rfl
  obtain ⟨r', hr', hcompile⟩ := respelled_listedDocument.compiles_alike hr
  exact ⟨_, r', hr, hr', hcompile⟩

end ReportQuery
