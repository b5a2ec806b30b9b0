import ReportQuery.Proofs.Report.Acceptance

/-!
# The first violation

A request may break rules at many places, and one violation is told. This file says which one. A
`Place` is a part of the request, an entry of that part and a check of that entry, and places are
ordered in this way too (`Place.Before`). `Request.BreaksAt` says which rule is broken at which
place, every rule by itself: that the comparison of a condition on groups does not fit, say, is a
fact about the condition, whether or not its aggregate can be read.

Validation accepts exactly the requests in which no rule is broken, and of any other it tells the
violation at the first place where one is.

The rules are run in loops inside of loops, and each list of violations is put together from lists.
`TellsFirst` is what is proved of all of them: a list tells the first of what is broken. It holds
of one check, it goes from two lists to one behind the other when all places of the first lie
before those of the second (`TellsFirst.append`), and from the entries of a part to the part
(`TellsFirst.entries`).
-/

namespace ReportQuery

open Sql

/-! ### Places -/

/-- The parts of a request that are checked. -/
inductive RequestPart where
  | tables | columns | aggregations | filters | having | orderBy | groupBy
deriving Repr, DecidableEq

/-- How many parts are checked before this one. -/
def RequestPart.rank : RequestPart → Nat
  | .tables => 0
  | .columns => 1
  | .aggregations => 2
  | .filters => 3
  | .having => 4
  | .orderBy => 5
  | .groupBy => 6

/-- A check of an entry of a part. Entries are counted within their part, checks within their
entry. -/
structure Place where
  part : RequestPart
  entry : Nat
  check : Nat
deriving Repr, DecidableEq

/-- The order of places: by the part, then by the entry, then by the check. -/
def Place.Before (p q : Place) : Prop :=
  p.part.rank < q.part.rank ∨
    p.part = q.part ∧ (p.entry < q.entry ∨ p.entry = q.entry ∧ p.check < q.check)

/-- No two places are before each other. -/
theorem Place.Before.asymm {p q : Place} (h : p.Before q) : ¬ q.Before p := by
  rcases h with h | ⟨hpart, h⟩
  · rintro (h' | ⟨hpart', -⟩)
    · omega
    · rw [hpart'] at h
      omega
  · rintro (h' | ⟨-, h'⟩)
    · rw [hpart] at h'
      omega
    · omega

/-! ### What is broken at a place -/

/-- The rule on column names, for one name. -/
inductive BreaksColumn (role : ColumnRole) (name : String) : Nat → Violation → Prop
  | name (h : acceptsColumn name = false) : BreaksColumn role name 0 (.invalidColumn role name)

/-- The rule on column names, for a name that may be missing or empty. -/
inductive BreaksOptionalColumn (role : ColumnRole) (name? : Option String) : Nat → Violation → Prop
  | name {name} (hname : name? = some name) (hne : name ≠ "") (h : acceptsColumn name = false) :
    BreaksOptionalColumn role name? 0 (.invalidColumn role name)

/-- The rules on a table: its name comes before the sides of its ON condition, which are looked at
when both are given and neither is empty. -/
inductive TableSource.BreaksAt (t : TableSource) : Nat → Violation → Prop
  | name (h : acceptsTable t.name = false) : BreaksAt t 0 (.invalidTable t.name)
  | left {left right} (hsides : t.explicitSides? = some (left, right))
    (h : acceptsColumn left = false) : BreaksAt t 1 (.invalidColumn (.joinSide t.name) left)
  | right {left right} (hsides : t.explicitSides? = some (left, right))
    (h : acceptsColumn right = false) : BreaksAt t 2 (.invalidColumn (.joinSide t.name) right)

/-- The rules on a filter: its column comes before its value. -/
inductive Filter.BreaksAt (f : Filter) : Nat → Violation → Prop
  | column (h : acceptsColumn f.column = false) :
    BreaksAt f 0 (.invalidColumn .filtered f.column)
  | taggedColumn {table name} (hvalue : f.value = .column table name)
    (h : acceptsColumn (table ++ "." ++ name) = false) :
    BreaksAt f 1 (.invalidColumn (.filterValue f.column) (table ++ "." ++ name))
  | columnForMembership {table name} (hvalue : f.value = .column table name)
    (h : f.comparison = .among) : BreaksAt f 2 (.columnForMembership f.column)
  | listForComparison {items} (hvalue : f.value = .list items) (h : f.comparison ≠ .among) :
    BreaksAt f 1 (.listForComparison f.comparison f.column)
  | emptyMembership (hvalue : f.value = .list []) : BreaksAt f 2 (.emptyMembership f.column)

/-- The rules on a condition on groups: the form of its aggregate, then the function, then the
comparison. -/
inductive GroupCondition.BreaksAt (c : GroupCondition) : Nat → Violation → Prop
  | shape (h : aggregateParts? c.aggregation.toList = none) :
    BreaksAt c 0 (.groupShape c.aggregation)
  | function {w column} (hparts : aggregateParts? c.aggregation.toList = some (w, column))
    (h : ∀ f : AggregateFunction, word f ≠ String.ofList (w.map Char.toUpper)) :
    BreaksAt c 1 (.groupFunction (String.ofList w))
  | comparison (h : c.comparison ∈ [.like, .notLike, .among]) :
    BreaksAt c 2 (.groupComparison c.comparison)

/-- The rules on a request, entry by entry. -/
inductive Request.BreaksAt (r : Request) : Place → Violation → Prop
  | noTables (h : r.tables.getD [] = []) : BreaksAt r ⟨.tables, 0, 0⟩ .noTables
  | table {i n t v} (ht : (r.tables.getD [])[i]? = some t) (h : t.toSource.BreaksAt n v) :
    BreaksAt r ⟨.tables, i, n⟩ v
  | column {i n c v} (hc : (r.columns.getD [])[i]? = some c)
    (h : BreaksOptionalColumn .selected c.column? n v) : BreaksAt r ⟨.columns, i, n⟩ v
  | aggregation {i n a v} (ha : (r.aggregations.getD [])[i]? = some a)
    (h : BreaksOptionalColumn .aggregated a.column n v) : BreaksAt r ⟨.aggregations, i, n⟩ v
  | filter {i n f v} (hf : (r.filters.getD [])[i]? = some f) (h : f.BreaksAt n v) :
    BreaksAt r ⟨.filters, i, n⟩ v
  | having {list i n c v} (hlist : r.having = some (.conditions list)) (hc : list[i]? = some c)
    (h : c.BreaksAt n v) : BreaksAt r ⟨.having, i, n⟩ v
  | orderBy {i n o v} (ho : (r.orderBy.getD [])[i]? = some o)
    (h : BreaksOptionalColumn .ordering o.column n v) : BreaksAt r ⟨.orderBy, i, n⟩ v
  | groupBy {g i n name v} (hg : r.groupBy = some g) (hname : g.names[i]? = some name)
    (h : BreaksColumn .grouping name n v) : BreaksAt r ⟨.groupBy, i, n⟩ v

/-! ### The first of what is broken -/

/-- The list tells the first of what is broken, and is empty only if nothing is. -/
def TellsFirst {κ : Type} (before : κ → κ → Prop) (told : List Violation)
    (breaks : κ → Violation → Prop) : Prop :=
  match told.head? with
  | none => ∀ k v, ¬ breaks k v
  | some v => ∃ k, breaks k v ∧ ∀ k' w, breaks k' w → (k' = k ∧ w = v) ∨ before k k'

namespace TellsFirst

variable {κ : Type} {before : κ → κ → Prop} {told told' : List Violation}
  {breaks breaks' : κ → Violation → Prop}

/-- Only what is broken where matters, not how it is said. -/
theorem congr (h : TellsFirst before told breaks) (hiff : ∀ k v, breaks k v ↔ breaks' k v) :
    TellsFirst before told breaks' := by
  have heq : breaks = breaks' := funext fun k ↦ funext fun v ↦ propext (hiff k v)
  exact heq ▸ h

theorem nil : TellsFirst before [] (fun _ _ ↦ False) :=
  fun _ _ h ↦ h

/-- One rule at one place. -/
theorem check (before : κ → κ → Prop) (holds : Bool) (place : κ) (violation : Violation) :
    TellsFirst before (unlessHolds holds violation)
      (fun k v ↦ holds = false ∧ k = place ∧ v = violation) := by
  cases holds with
  | true => exact fun _ _ h ↦ absurd h.1 (by decide)
  | false => exact ⟨place, ⟨rfl, rfl, rfl⟩, fun _ _ h ↦ .inl h.2⟩

/-- Lists one behind the other, when all places of the first lie before those of the second. -/
theorem append (h : TellsFirst before told breaks) (h' : TellsFirst before told' breaks')
    (hbefore : ∀ k k' v w, breaks k v → breaks' k' w → before k k') :
    TellsFirst before (told ++ told') (fun k v ↦ breaks k v ∨ breaks' k v) := by
  cases told with
  | nil =>
    have hnone : ∀ k v, ¬ breaks k v := h
    exact h'.congr fun k v ↦ (or_iff_right (hnone k v)).symm
  | cons v rest =>
    obtain ⟨k, hk, hfirst⟩ := h
    refine ⟨k, .inl hk, fun k' w hw ↦ ?_⟩
    rcases hw with hw | hw
    · exact hfirst k' w hw
    · exact .inr (hbefore k k' v w hk hw)

/-- Two rules, at one check and at a later one. -/
theorem checks (holds holds' : Bool) {i j : Nat} (hij : i < j) (v v' : Violation) :
    TellsFirst (· < ·) (unlessHolds holds v ++ unlessHolds holds' v')
      (fun n w ↦ (holds = false ∧ n = i ∧ w = v) ∨ holds' = false ∧ n = j ∧ w = v') := by
  refine (check _ holds i v).append (check _ holds' j v') ?_
  rintro _ _ _ _ ⟨-, rfl, -⟩ ⟨-, rfl, -⟩
  exact hij

/-- The same list at places of another kind, in the same order. -/
theorem transport {κ' : Type} (before' : κ' → κ' → Prop) (place : κ → κ')
    (hplace : ∀ k l, before k l → before' (place k) (place l)) (h : TellsFirst before told breaks) :
    TellsFirst before' told (fun k' v ↦ ∃ k, k' = place k ∧ breaks k v) := by
  cases told with
  | nil =>
    rintro k' v ⟨k, -, hk⟩
    exact h k v hk
  | cons v rest =>
    obtain ⟨k, hk, hfirst⟩ := h
    refine ⟨place k, ⟨k, rfl, hk⟩, ?_⟩
    rintro _ w ⟨l, rfl, hl⟩
    rcases hfirst l w hl with ⟨rfl, rfl⟩ | hlater
    · exact .inl ⟨rfl, rfl⟩
    · exact .inr (hplace k l hlater)

end TellsFirst

/-- What is broken in an entry of a part, the first of which has the given number. -/
def BreaksEntry {α : Type} (part : RequestPart) (breaks : α → Nat → Violation → Prop) (start : Nat)
    (entries : List α) (p : Place) (v : Violation) : Prop :=
  p.part = part ∧ ∃ i a, p.entry = start + i ∧ entries[i]? = some a ∧ breaks a p.check v

/-- An entry is broken when the first one is, or one of the others with its own number. -/
theorem breaksEntry_cons {α : Type} {part : RequestPart} {breaks : α → Nat → Violation → Prop}
    {start : Nat} {a : α} {entries : List α} {p : Place} {v : Violation} :
    BreaksEntry part breaks start (a :: entries) p v ↔
      (∃ n, p = ⟨part, start, n⟩ ∧ breaks a n v) ∨
        BreaksEntry part breaks (start + 1) entries p v := by
  constructor
  · rintro ⟨hpart, i, b, hentry, hb, hbreaks⟩
    cases i with
    | zero =>
      cases hb
      exact .inl ⟨p.check, by rw [← hpart, ← start.add_zero, ← hentry], hbreaks⟩
    | succ i => exact .inr ⟨hpart, i, b, by omega, hb, hbreaks⟩
  · rintro (⟨n, rfl, hbreaks⟩ | ⟨hpart, i, b, hentry, hb, hbreaks⟩)
    · exact ⟨rfl, 0, a, rfl, rfl, hbreaks⟩
    · exact ⟨hpart, i + 1, b, by omega, hb, hbreaks⟩

/-- A part tells the first of what is broken when its entries do. -/
theorem TellsFirst.entries {α : Type} {violations : α → List Violation}
    {breaks : α → Nat → Violation → Prop}
    (h : ∀ a, TellsFirst (· < ·) (violations a) (breaks a)) (part : RequestPart) (start : Nat)
    (entries : List α) : TellsFirst Place.Before (entries.flatMap violations)
      (BreaksEntry part breaks start entries) := by
  induction entries generalizing start with
  | nil =>
    rintro p v ⟨-, i, a, -, ha, -⟩
    cases ha
  | cons a entries ih =>
    have hentry := (h a).transport Place.Before (fun n ↦ ⟨part, start, n⟩)
      fun k l hkl ↦ .inr ⟨rfl, .inr ⟨rfl, hkl⟩⟩
    refine (hentry.append (ih (start + 1)) ?_).congr fun p v ↦ breaksEntry_cons.symm
    rintro _ q v w ⟨n, rfl, -⟩ ⟨hpart, i, b, hq, -⟩
    have hlater : start < q.entry := by omega
    exact .inr ⟨hpart.symm, .inl hlater⟩

/-! ### Entries -/

/-- The check of a column tells the only thing that it can find. -/
theorem tellsFirst_checkColumn (role : ColumnRole) (name : String) :
    TellsFirst (· < ·) (checkColumn role name) (BreaksColumn role name) := by
  refine (TellsFirst.check _ (acceptsColumn name) 0 (.invalidColumn role name)).congr
    fun n v ↦ ⟨?_, ?_⟩
  · rintro ⟨h, rfl, rfl⟩
    exact .name h
  · rintro ⟨h⟩
    exact ⟨h, rfl, rfl⟩

theorem tellsFirst_checkOptionalColumn (role : ColumnRole) (name? : Option String) :
    TellsFirst (· < ·) (checkOptionalColumn role name?) (BreaksOptionalColumn role name?) := by
  rcases name? with - | name
  · rintro n v ⟨hname⟩
    cases hname
  · by_cases hempty : name = ""
    · rw [checkOptionalColumn, if_pos hempty]
      rintro n v ⟨hname, hne⟩
      cases hname
      exact hne hempty
    · rw [checkOptionalColumn, if_neg hempty]
      refine (tellsFirst_checkColumn role name).congr fun n v ↦ ⟨?_, ?_⟩
      · rintro ⟨h⟩
        exact .name rfl hempty h
      · rintro ⟨hname, -, h⟩
        cases hname
        exact .name h

/-- The rules for a table tell what is wrong in the order of its parts. -/
theorem TableSource.tellsFirst_violations (t : TableSource) :
    TellsFirst (· < ·) t.violations t.BreaksAt := by
  have hname := TellsFirst.check (· < ·) (acceptsTable t.name) 0 (.invalidTable t.name)
  rw [TableSource.violations]
  -- an incomplete condition of its own is not looked at
  rcases hsides : t.explicitSides? with - | ⟨left, right⟩
  · refine (hname.append .nil fun _ _ _ _ _ h ↦ h.elim).congr fun n v ↦ ⟨?_, ?_⟩
    · rintro (⟨h, rfl, rfl⟩ | h)
      · exact .name h
      · exact h.elim
    · rintro (h | ⟨h, -⟩ | ⟨h, -⟩)
      · exact .inl ⟨h, rfl, rfl⟩
      · cases hsides.symm.trans h
      · cases hsides.symm.trans h
  · have hsidesTold := TellsFirst.checks (acceptsColumn left) (acceptsColumn right)
      (by decide : 1 < 2) (.invalidColumn (.joinSide t.name) left)
      (.invalidColumn (.joinSide t.name) right)
    refine (hname.append hsidesTold ?_).congr fun n v ↦ ⟨?_, ?_⟩
    · rintro _ _ _ _ ⟨-, rfl, -⟩ (⟨-, rfl, -⟩ | ⟨-, rfl, -⟩) <;> omega
    · rintro (⟨h, rfl, rfl⟩ | ⟨h, rfl, rfl⟩ | ⟨h, rfl, rfl⟩)
      · exact .name h
      · exact .left hsides h
      · exact .right hsides h
    · rintro (h | ⟨hs, h⟩ | ⟨hs, h⟩)
      · exact .inl ⟨h, rfl, rfl⟩
      · cases hsides.symm.trans hs
        exact .inr (.inl ⟨h, rfl, rfl⟩)
      · cases hsides.symm.trans hs
        exact .inr (.inr ⟨h, rfl, rfl⟩)

/-- The rules for the value of a filter come after the rule for its column. -/
theorem Filter.tellsFirst_valueViolations (f : Filter) :
    TellsFirst (· < ·) f.valueViolations (fun n v ↦ 0 < n ∧ f.BreaksAt n v) := by
  rw [Filter.valueViolations]
  -- the three shapes of a value: a tagged column, a list, and all others, which break nothing
  split
  · next table name hvalue =>
    have htold := TellsFirst.checks (acceptsColumn (table ++ "." ++ name))
      (decide (f.comparison ≠ .among)) (by decide : 1 < 2)
      (.invalidColumn (.filterValue f.column) (table ++ "." ++ name))
      (.columnForMembership f.column)
    refine htold.congr fun n v ↦ ⟨?_, ?_⟩
    · rintro (⟨h, rfl, rfl⟩ | ⟨h, rfl, rfl⟩)
      · exact ⟨by omega, .taggedColumn hvalue h⟩
      · exact ⟨by omega, .columnForMembership hvalue (by simpa using h)⟩
    · rintro ⟨hpos, h | ⟨hv, h⟩ | ⟨hv, h⟩ | ⟨hv, -⟩ | hv⟩
      · omega
      · cases hvalue.symm.trans hv
        exact .inl ⟨h, rfl, rfl⟩
      · exact .inr ⟨by simpa using h, rfl, rfl⟩
      · cases hvalue.symm.trans hv
      · cases hvalue.symm.trans hv
  · next items hvalue =>
    have htold := TellsFirst.checks (decide (f.comparison = .among)) (!items.isEmpty)
      (by decide : 1 < 2) (.listForComparison f.comparison f.column) (.emptyMembership f.column)
    refine htold.congr fun n v ↦ ⟨?_, ?_⟩
    · rintro (⟨h, rfl, rfl⟩ | ⟨h, rfl, rfl⟩)
      · exact ⟨by omega, .listForComparison hvalue (of_decide_eq_false h)⟩
      · have hnil : items = [] := by simpa using h
        exact ⟨by omega, .emptyMembership (hnil ▸ hvalue)⟩
    · rintro ⟨hpos, h | ⟨hv, h⟩ | ⟨hv, h⟩ | ⟨hv, h⟩ | hv⟩
      · omega
      · cases hvalue.symm.trans hv
      · cases hvalue.symm.trans hv
      · exact .inl ⟨decide_eq_false h, rfl, rfl⟩
      · cases hvalue.symm.trans hv
        exact .inr ⟨rfl, rfl, rfl⟩
  · next hcolumn hlist =>
    rintro n v ⟨hpos, h | ⟨hv, h⟩ | ⟨hv, h⟩ | ⟨hv, h⟩ | hv⟩
    · omega
    · exact hcolumn _ _ hv
    · exact hcolumn _ _ hv
    · exact hlist _ hv
    · exact hlist _ hv

/-- The rules for a filter tell what is wrong with the column first, then with the value. -/
theorem Filter.tellsFirst_violations (f : Filter) :
    TellsFirst (· < ·) f.violations f.BreaksAt := by
  have hcolumn := TellsFirst.check (· < ·) (acceptsColumn f.column) 0
    (.invalidColumn .filtered f.column)
  refine (hcolumn.append f.tellsFirst_valueViolations ?_).congr fun n v ↦ ⟨?_, fun h ↦ ?_⟩
  · rintro _ _ _ _ ⟨-, rfl, -⟩ ⟨hpos, -⟩
    exact hpos
  · rintro (⟨h, rfl, rfl⟩ | ⟨-, h⟩)
    · exact .column h
    · exact h
  · rcases n.eq_zero_or_pos with rfl | hpos
    · cases h with
      | column h => exact .inl ⟨h, rfl, rfl⟩
    · exact .inr ⟨hpos, h⟩

/-- A word stands for no member of a vocabulary when it is the word of none. -/
theorem ofWord?_eq_none_iff {α : Type} [Vocabulary α] {w : String} :
    (Vocabulary.ofWord? w : Option α) = none ↔ ∀ a ∈ (Vocabulary.all : List α), word a ≠ w := by
  simp [Vocabulary.ofWord?]

theorem AggregateFunction.mem_all (f : AggregateFunction) :
    f ∈ (Vocabulary.all : List AggregateFunction) := by
  cases f <;> decide

/-- Three comparisons do not fit an aggregate. -/
theorem Comparison.fitsAggregate_eq_false_iff {c : Comparison} :
    c.fitsAggregate = false ↔ c ∈ [.like, .notLike, .among] := by
  cases c <;> decide

/-- The rules for a condition on groups tell what is wrong with the aggregate first. -/
theorem GroupCondition.tellsFirst_violations (c : GroupCondition) :
    TellsFirst (· < ·) c.violations c.BreaksAt := by
  rw [GroupCondition.violations]
  split
  · next hparts =>
    refine ⟨0, .shape hparts, ?_⟩
    rintro n v (h | ⟨hp, h⟩ | h)
    · exact .inl ⟨rfl, rfl⟩
    · exact .inr (by omega)
    · exact .inr (by omega)
  · next w column hparts =>
    have htold := TellsFirst.checks
      (Vocabulary.ofWord? (String.ofList (w.map Char.toUpper)) : Option AggregateFunction).isSome
      c.comparison.fitsAggregate (by decide : 1 < 2) (.groupFunction (String.ofList w))
      (.groupComparison c.comparison)
    have hunknown : ∀ {u : String}, (Vocabulary.ofWord? u : Option AggregateFunction).isSome =
        false ↔ ∀ f : AggregateFunction, word f ≠ u := by
      intro u
      rw [Option.isSome_eq_false_iff, Option.isNone_iff_eq_none, ofWord?_eq_none_iff]
      exact ⟨fun h f ↦ h f f.mem_all, fun h f _ ↦ h f⟩
    refine htold.congr fun n v ↦ ⟨?_, ?_⟩
    · rintro (⟨h, rfl, rfl⟩ | ⟨h, rfl, rfl⟩)
      · exact .function hparts (hunknown.1 h)
      · exact .comparison (Comparison.fitsAggregate_eq_false_iff.1 h)
    · rintro (h | ⟨hp, h⟩ | h)
      · cases hparts.symm.trans h
      · cases hparts.symm.trans hp
        exact .inl ⟨hunknown.2 h, rfl, rfl⟩
      · exact .inr ⟨Comparison.fitsAggregate_eq_false_iff.2 h, rfl, rfl⟩

/-! ### Requests -/

/-- What is broken in the entries of a part that are counted from zero. -/
theorem breaksEntry_zero {α : Type} {part : RequestPart} {breaks : α → Nat → Violation → Prop}
    {entries : List α} {p : Place} {v : Violation} : BreaksEntry part breaks 0 entries p v ↔
      ∃ i n a, p = ⟨part, i, n⟩ ∧ entries[i]? = some a ∧ breaks a n v := by
  constructor
  · rintro ⟨rfl, i, a, hentry, ha, h⟩
    rw [Nat.zero_add] at hentry
    exact ⟨i, p.check, a, by rw [← hentry], ha, h⟩
  · rintro ⟨i, n, a, rfl, ha, h⟩
    exact ⟨rfl, i, a, (Nat.zero_add i).symm, ha, h⟩

/-- The list tells the first of what is broken, all of it in the parts up to this one. -/
structure TellsUpTo (part : RequestPart) (told : List Violation)
    (breaks : Place → Violation → Prop) : Prop where
  tells : TellsFirst Place.Before told breaks
  rank_le : ∀ p v, breaks p v → p.part.rank ≤ part.rank

/-- One more part behind those that are checked already. -/
theorem TellsUpTo.andThen {α : Type} {part : RequestPart} {told : List Violation}
    {breaks : Place → Violation → Prop} {violations : α → List Violation}
    {breaks' : α → Nat → Violation → Prop} (h : TellsUpTo part told breaks) (part' : RequestPart)
    (hpart : part.rank < part'.rank)
    (hentries : ∀ a, TellsFirst (· < ·) (violations a) (breaks' a)) (entries : List α) :
    TellsUpTo part' (told ++ entries.flatMap violations)
      (fun p v ↦ breaks p v ∨ BreaksEntry part' breaks' 0 entries p v) where
  tells := h.tells.append (.entries hentries part' 0 entries) fun p q v w hp hq ↦ by
    have hle := h.rank_le p v hp
    exact .inl (by rw [hq.1]; omega)
  rank_le p v hp := by
    rcases hp with hp | hp
    · have hle := h.rank_le p v hp
      omega
    · exact Nat.le_of_eq (by rw [hp.1])

namespace Request

/-- The tables come first: a request without one breaks the first rule of all. -/
theorem tellsUpTo_tableViolations (r : Request) : TellsUpTo .tables r.tableViolations (fun p v ↦
    (r.tables.getD [] = [] ∧ p = ⟨.tables, 0, 0⟩ ∧ v = .noTables) ∨
      BreaksEntry .tables (fun t : TableEntry ↦ t.toSource.BreaksAt) 0 (r.tables.getD []) p v) where
  tells := by
    rw [tableViolations]
    split
    · next hnil =>
      rw [hnil]
      refine ⟨⟨.tables, 0, 0⟩, .inl ⟨rfl, rfl, rfl⟩, ?_⟩
      rintro p v (⟨-, hp⟩ | ⟨-, i, t, -, ht, -⟩)
      · exact .inl hp
      · cases ht
    · next hne =>
      have hentries := TellsFirst.entries
        (fun t : TableEntry ↦ t.toSource.tellsFirst_violations) .tables 0 (r.tables.getD [])
      exact hentries.congr fun p v ↦ (or_iff_right fun h ↦ hne h.1).symm
  rank_le p v hp := by
    rcases hp with ⟨-, rfl, -⟩ | ⟨hpart, -⟩
    · exact Nat.le_refl _
    · exact Nat.le_of_eq (by rw [hpart])

/-- The conditions on groups that are looked at. -/
def groupConditions (r : Request) : List GroupCondition :=
  match r.having with
  | some (.conditions list) => list
  | _ => []

/-- The names to group by that are looked at. -/
def groupingNames (r : Request) : List String :=
  match r.groupBy with
  | some g => g.names
  | none => []

/-- **The rules are checked part by part**, in the order of the parts of a statement. -/
theorem violations_eq_append (r : Request) : r.violations = r.tableViolations ++
    (r.columns.getD []).flatMap (fun c ↦ checkOptionalColumn .selected c.column?) ++
    (r.aggregations.getD []).flatMap (fun a ↦ checkOptionalColumn .aggregated a.column) ++
    (r.filters.getD []).flatMap Filter.violations ++
    r.groupConditions.flatMap GroupCondition.violations ++
    (r.orderBy.getD []).flatMap (fun o ↦ checkOptionalColumn .ordering o.column) ++
    r.groupingNames.flatMap (checkColumn .grouping) := by
  rw [violations, groupConditions, groupingNames]
  rcases r.having with - | (list | text) <;> rcases r.groupBy with - | g <;> rfl

/-- A rule that is broken is broken where there is no table, or in an entry of one of the parts. -/
theorem breaksAt_iff {r : Request} {p : Place} {v : Violation} : r.BreaksAt p v ↔
    (((((((r.tables.getD [] = [] ∧ p = ⟨.tables, 0, 0⟩ ∧ v = .noTables) ∨
      BreaksEntry .tables (fun t : TableEntry ↦ t.toSource.BreaksAt) 0 (r.tables.getD []) p v) ∨
      BreaksEntry .columns (fun c : ColumnEntry ↦ BreaksOptionalColumn .selected c.column?) 0
        (r.columns.getD []) p v) ∨
      BreaksEntry .aggregations (fun a : Aggregation ↦ BreaksOptionalColumn .aggregated a.column) 0
        (r.aggregations.getD []) p v) ∨
      BreaksEntry .filters Filter.BreaksAt 0 (r.filters.getD []) p v) ∨
      BreaksEntry .having GroupCondition.BreaksAt 0 r.groupConditions p v) ∨
      BreaksEntry .orderBy (fun o : OrderEntry ↦ BreaksOptionalColumn .ordering o.column) 0
        (r.orderBy.getD []) p v) ∨
      BreaksEntry .groupBy (BreaksColumn .grouping) 0 r.groupingNames p v := by
  -- one case for each part, in the order of the rules
  simp only [breaksEntry_zero, or_assoc]
  constructor
  · intro h
    cases h with
    | noTables h => exact .inl ⟨h, rfl, rfl⟩
    | table ht h => exact .inr (.inl ⟨_, _, _, rfl, ht, h⟩)
    | column hc h => exact .inr (.inr (.inl ⟨_, _, _, rfl, hc, h⟩))
    | aggregation ha h => exact .inr (.inr (.inr (.inl ⟨_, _, _, rfl, ha, h⟩)))
    | filter hf h => exact .inr (.inr (.inr (.inr (.inl ⟨_, _, _, rfl, hf, h⟩))))
    | having hlist hc h =>
      refine .inr (.inr (.inr (.inr (.inr (.inl ⟨_, _, _, rfl, ?_, h⟩)))))
      rwa [groupConditions, hlist]
    | orderBy ho h => exact .inr (.inr (.inr (.inr (.inr (.inr (.inl ⟨_, _, _, rfl, ho, h⟩))))))
    | groupBy hg hname h =>
      refine .inr (.inr (.inr (.inr (.inr (.inr (.inr ⟨_, _, _, rfl, ?_, h⟩))))))
      rwa [groupingNames, hg]
  · rintro (⟨h, rfl, rfl⟩ | ⟨i, n, t, rfl, ht, h⟩ | ⟨i, n, c, rfl, hc, h⟩ | ⟨i, n, a, rfl, ha, h⟩ |
      ⟨i, n, f, rfl, hf, h⟩ | ⟨i, n, c, rfl, hc, h⟩ | ⟨i, n, o, rfl, ho, h⟩ |
      ⟨i, n, name, rfl, hname, h⟩)
    · exact .noTables h
    · exact .table ht h
    · exact .column hc h
    · exact .aggregation ha h
    · exact .filter hf h
    · rw [groupConditions] at hc
      split at hc
      · next list hlist => exact .having hlist hc h
      · cases hc
    · exact .orderBy ho h
    · rw [groupingNames] at hname
      split at hname
      · next g hg => exact .groupBy hg hname h
      · cases hname

/-- **The violations of a request begin with the one at the first place** where a rule is broken. -/
theorem tellsFirst_violations (r : Request) :
    TellsFirst Place.Before r.violations r.BreaksAt := by
  have htold := r.tellsUpTo_tableViolations
    |>.andThen .columns (by decide)
      (fun c : ColumnEntry ↦ tellsFirst_checkOptionalColumn .selected c.column?) (r.columns.getD [])
    |>.andThen .aggregations (by decide)
      (fun a : Aggregation ↦ tellsFirst_checkOptionalColumn .aggregated a.column)
      (r.aggregations.getD [])
    |>.andThen .filters (by decide) Filter.tellsFirst_violations (r.filters.getD [])
    |>.andThen .having (by decide) GroupCondition.tellsFirst_violations r.groupConditions
    |>.andThen .orderBy (by decide)
      (fun o : OrderEntry ↦ tellsFirst_checkOptionalColumn .ordering o.column) (r.orderBy.getD [])
    |>.andThen .groupBy (by decide) (tellsFirst_checkColumn .grouping) r.groupingNames
  rw [violations_eq_append]
  exact htold.tells.congr fun p v ↦ breaksAt_iff.symm

/-- A request is refused by the first rule that it breaks. -/
theorem validate_eq_error_iff_head? {r : Request} {v : Violation} :
    r.validate = .error v ↔ r.violations.head? = some v := by
  rw [validate]
  rcases r.violations with - | ⟨w, rest⟩
  · simp
  · simp

/-- **Validation accepts exactly the valid requests and tells the first violation of any other.** A
request is valid exactly when no rule is broken anywhere in it; otherwise there is a first place
where one is broken, and what is broken there is told. -/
theorem validate_tells_first (r : Request) :
    (r.validate = .ok () ↔ r.Valid) ∧
    (r.Valid ↔ ∀ p v, ¬ r.BreaksAt p v) ∧
    (∀ v, r.validate = .error v ↔ ∃ p, r.BreaksAt p v ∧
      ∀ q w, r.BreaksAt q w → (q = p ∧ w = v) ∨ p.Before q) := by
  have htells := r.tellsFirst_violations
  have hvalid : r.Valid ↔ r.violations.head? = none := by
    rw [List.head?_eq_none_iff, violations_eq_nil_iff]
  rw [TellsFirst] at htells
  rcases hhead : r.violations.head? with - | v
  · rw [hhead] at htells hvalid
    refine ⟨validate_eq_ok_iff, iff_of_true (hvalid.2 rfl) htells, fun w ↦ ?_⟩
    rw [validate_eq_error_iff_head?, hhead]
    exact iff_of_false (by simp) fun ⟨p, hp, _⟩ ↦ htells p w hp
  · rw [hhead] at htells hvalid
    obtain ⟨p, hp, hfirst⟩ := htells
    refine ⟨validate_eq_ok_iff, iff_of_false (by simp [hvalid]) fun h ↦ h p v hp, fun w ↦ ?_⟩
    rw [validate_eq_error_iff_head?, hhead, Option.some.injEq]
    constructor
    · rintro rfl
      exact ⟨p, hp, hfirst⟩
    · rintro ⟨q, hq, hqfirst⟩
      -- of two places that both come first, neither lies before the other
      rcases hfirst q w hq with ⟨-, hw⟩ | hpq
      · exact hw.symm
      · rcases hqfirst p v hp with ⟨-, hv⟩ | hqp
        · exact hv
        · exact absurd hqp hpq.asymm

/-- A request whose filter breaks two rules and whose grouping breaks one. -/
def brokenRequest : Request where
  tables := some [.name "sales"]
  filters := some [{ column := "sales total", comparison := .among, value := .list [] }]
  groupBy := some (.text "sales-id")

/-- Of three broken rules the one on the column of the filter is told: the empty list comes after
it in the filter, and the grouping after the filters. -/
theorem brokenRequest_tells_first :
    brokenRequest.BreaksAt ⟨.filters, 0, 2⟩ (.emptyMembership "sales total") ∧
    brokenRequest.BreaksAt ⟨.groupBy, 0, 0⟩ (.invalidColumn .grouping "sales-id") ∧
    ¬ brokenRequest.Valid ∧
    ∃ p, brokenRequest.BreaksAt p (.invalidColumn .filtered "sales total") ∧
      ∀ q w, brokenRequest.BreaksAt q w →
        (q = p ∧ w = .invalidColumn .filtered "sales total") ∨ p.Before q := by
  have hlist : brokenRequest.BreaksAt ⟨.filters, 0, 2⟩ (.emptyMembership "sales total") :=
    .filter rfl (.emptyMembership rfl)
  have hname : brokenRequest.BreaksAt ⟨.groupBy, 0, 0⟩ (.invalidColumn .grouping "sales-id") :=
    .groupBy rfl (by decide) (.name (by decide))
  obtain ⟨-, hvalid, htold⟩ := validate_tells_first brokenRequest
  exact ⟨hlist, hname, fun h ↦ hvalid.1 h _ _ hlist, (htold _).1 (by rfl)⟩

end Request

end ReportQuery
