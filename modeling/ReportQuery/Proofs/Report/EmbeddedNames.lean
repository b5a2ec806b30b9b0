import ReportQuery.Proofs.JoinPlan.Placement
import ReportQuery.Proofs.Report.Acceptance
import ReportQuery.Proofs.Sql.Identifier

/-!
# Names that stand in a statement

Some texts of a request are embedded into its statement without quotes: the names of tables and
columns, the sides of explicit conditions, and the keys made from columns.
`CompiledReport.NamesSatisfy` says of all of them at once that they have a property. Every one was
checked before, whichever way it took through the flat report and the clauses, so every one is an
identifier with at most a line feed behind it (`compile_namesSatisfy`).

That line feed is let through by the rules on names, which look at a text up to a final line feed.
It is the only way in which an embedded name is not an identifier: the names of a statement are
identifiers exactly when none of them has a line feed. `lineFeedRequest` is accepted and has one.

## All names at once

A property of names is a parameter of `NamesSatisfy`, so the places at which names are embedded are
listed once. It is used twice, with the property of being an identifier with a line feed behind it
at most, and with that of having no line feed; that both hold together is `NamesSatisfy.and`, and
that the two make an identifier is a fact about single names (`isIdentifier_iff`).
-/

namespace ReportQuery

open Sql

/-! ### All embedded names -/

/-- Every text that a statement takes from its request and embeds without quotes has a property,
given the flat report that the clauses are built from. -/
structure CompiledReport.NamesSatisfy (compiled : CompiledReport) (p : Report)
    (P : String → Prop) : Prop where
  base : P compiled.source.base
  joined : ∀ step ∈ compiled.source.joins, P step.table
  sides : ∀ step ∈ compiled.source.joins, step.explicit = true → P step.left ∧ P step.right
  selected : ∀ c ∈ p.columns, P c
  aggregated : ∀ a ∈ p.aggregates, P a.column
  aliases : ∀ item ∈ compiled.select.items, ∀ key, item.givenAlias = some key → P key
  filtered : ∀ f ∈ p.filters, P f.column
  tagged : ∀ f ∈ p.filters, ∀ table name, f.value = .column table name →
    P (table ++ "." ++ name)
  conditions : ∀ list, p.having = some (.conditions list) → ∀ c ∈ list, ∀ word column,
    aggregateParts? c.aggregation.toList = some (word, column) → P (String.ofList column)
  grouped : ∀ c ∈ compiled.groupBy.columns, P c
  ordered : ∀ item ∈ compiled.orderBy.items, P item.column

/-- What follows from a property of each name holds of each name. -/
theorem CompiledReport.NamesSatisfy.imp {compiled : CompiledReport} {p : Report}
    {P Q : String → Prop} (h : compiled.NamesSatisfy p P) (himp : ∀ s, P s → Q s) :
    compiled.NamesSatisfy p Q where
  base := himp _ h.base
  joined step hstep := himp _ (h.joined step hstep)
  sides step hstep hexplicit := (h.sides step hstep hexplicit).imp (himp _) (himp _)
  selected c hc := himp _ (h.selected c hc)
  aggregated a ha := himp _ (h.aggregated a ha)
  aliases item hitem key hkey := himp _ (h.aliases item hitem key hkey)
  filtered f hf := himp _ (h.filtered f hf)
  tagged f hf table name hvalue := himp _ (h.tagged f hf table name hvalue)
  conditions list hlist c hc word column hparts :=
    himp _ (h.conditions list hlist c hc word column hparts)
  grouped c hc := himp _ (h.grouped c hc)
  ordered item hitem := himp _ (h.ordered item hitem)

/-- Two properties of each name hold together. -/
theorem CompiledReport.NamesSatisfy.and {compiled : CompiledReport} {p : Report}
    {P Q : String → Prop} (hP : compiled.NamesSatisfy p P) (hQ : compiled.NamesSatisfy p Q) :
    compiled.NamesSatisfy p fun s ↦ P s ∧ Q s where
  base := ⟨hP.base, hQ.base⟩
  joined step hstep := ⟨hP.joined step hstep, hQ.joined step hstep⟩
  sides step hstep hexplicit :=
    have hp := hP.sides step hstep hexplicit
    have hq := hQ.sides step hstep hexplicit
    ⟨⟨hp.1, hq.1⟩, hp.2, hq.2⟩
  selected c hc := ⟨hP.selected c hc, hQ.selected c hc⟩
  aggregated a ha := ⟨hP.aggregated a ha, hQ.aggregated a ha⟩
  aliases item hitem key hkey := ⟨hP.aliases item hitem key hkey, hQ.aliases item hitem key hkey⟩
  filtered f hf := ⟨hP.filtered f hf, hQ.filtered f hf⟩
  tagged f hf table name hvalue :=
    ⟨hP.tagged f hf table name hvalue, hQ.tagged f hf table name hvalue⟩
  conditions list hlist c hc word column hparts :=
    ⟨hP.conditions list hlist c hc word column hparts,
      hQ.conditions list hlist c hc word column hparts⟩
  grouped c hc := ⟨hP.grouped c hc, hQ.grouped c hc⟩
  ordered item hitem := ⟨hP.ordered item hitem, hQ.ordered item hitem⟩

/-! ### Where the names of each clause come from -/

/-- The keys in a SELECT clause are made from the selected and the aggregated columns. -/
theorem exists_of_givenAlias {columns : List String} {aggregates : List Aggregate}
    {item : SelectItem} (hitem : item ∈ (SelectClause.build columns aggregates).items)
    {key : String} (hkey : item.givenAlias = some key) :
    (∃ a ∈ aggregates, key = a.resultAlias) ∨ ∃ c ∈ columns, key = columnAlias c := by
  rcases List.mem_append.1 hitem with hitem | hitem
  · obtain ⟨a, ha, rfl⟩ := List.mem_map.1 hitem
    cases hkey
    exact .inl ⟨a, ha, rfl⟩
  · obtain ⟨c, hc, rfl⟩ := List.mem_map.1 hitem
    dsimp only at hkey
    split at hkey
    · cases hkey
      exact .inr ⟨c, hc, rfl⟩
    · cases hkey

/-- Only selected columns are ordered by. -/
theorem mem_of_mem_orderBy {entries : List OrderEntry} {columns : List String} {item : OrderItem}
    (h : item ∈ (OrderByClause.build entries columns).items) : item.column ∈ columns := by
  obtain ⟨entry, -, hentry⟩ := List.mem_filterMap.1 h
  rw [OrderItem.ofEntry?] at hentry
  split at hentry
  · split at hentry
    · next hselected =>
      cases hentry
      exact hselected.2
    · cases hentry
  · cases hentry

/-- A step that is explicit has the sides of its entry. -/
theorem explicit_sides_of_mem_placements {g : Relation.Graph} {default : JoinType}
    {included : List String} {ts : List TableSource} {step : JoinStep}
    (h : JoinPlan.Placement.joined step ∈ JoinPlan.placements g default included ts) :
    ∃ t ∈ ts, step.table = t.name ∧
      (step.explicit = true → t.explicitSides? = some (step.left, step.right)) := by
  obtain ⟨t, ht, before, hplace⟩ := JoinPlan.exists_place_of_mem_placements h
  refine ⟨t, ht, (JoinPlan.sides_of_place hplace.symm).1, fun hexplicit ↦ ?_⟩
  rw [JoinPlan.place] at hplace
  split at hplace
  · next left right hsides =>
    cases hplace
    exact hsides
  · split at hplace
    · cases hplace
    · split at hplace
      · cases hplace
        cases hexplicit
      · cases hplace

/-- The text between the parentheses of an aggregate is an identifier, without a line feed. -/
theorem isIdentifier_of_aggregateParts? {s word column : List Char}
    (h : aggregateParts? s = some (word, column)) : IsIdentifier (String.ofList column) :=
  isIdentifier_of_isPlainColumn (aggregateForm_of_aggregateParts? h).isPlainColumn

/-! ### Compiled reports -/

/-- **Every embedded name is an identifier**, perhaps with a line feed behind it. -/
theorem namesSatisfy_isIdentifierLine {g : Relation.Graph} {p : Report} (hp : p.Valid)
    {first : TableSource} {rest : List TableSource} (htables : p.tables = first :: rest)
    (dateFormat : String) :
    (Compiler.assemble dateFormat p (.ofBase g p.joinType first.name rest)).NamesSatisfy p
      IsIdentifierLine := by
  have hcolumn : ∀ c ∈ p.columns, IsIdentifierLine c :=
    fun c hc ↦ isIdentifierLine_of_acceptsColumn (hp.columns c hc)
  have haggregate : ∀ a ∈ p.aggregates, IsIdentifierLine a.column :=
    fun a ha ↦ isIdentifierLine_of_acceptsColumn (hp.aggregates a ha)
  have hsource : ∀ t ∈ first :: rest, t.Valid := htables ▸ hp.tables
  -- every join goes back to an entry that was checked, whichever way it was placed
  have hstep : ∀ step ∈ (JoinPlan.ofBase g p.joinType first.name rest).joins,
      ∃ t ∈ rest, step.table = t.name ∧
        (step.explicit = true → t.explicitSides? = some (step.left, step.right)) := by
    intro step hstep
    obtain ⟨record, hrecord, hjoined⟩ := List.mem_filterMap.1 hstep
    cases record with
    | joined s =>
      cases hjoined
      exact explicit_sides_of_mem_placements hrecord
    | skipped s => cases hjoined
  constructor
  case base => exact isIdentifierLine_of_acceptsTable (hsource first List.mem_cons_self).name
  case joined =>
    intro step h
    obtain ⟨t, ht, hname, -⟩ := hstep step h
    rw [hname]
    exact isIdentifierLine_of_acceptsTable (hsource t (List.mem_cons_of_mem _ ht)).name
  -- only the sides that an entry gives: those of an inferred join come from the graph
  case sides =>
    intro step h hexplicit
    obtain ⟨t, ht, -, hsides⟩ := hstep step h
    obtain ⟨hleft, hright⟩ :=
      (hsource t (List.mem_cons_of_mem _ ht)).sides _ _ (hsides hexplicit)
    exact ⟨isIdentifierLine_of_acceptsColumn hleft, isIdentifierLine_of_acceptsColumn hright⟩
  case selected => exact hcolumn
  case aggregated => exact haggregate
  case aliases =>
    intro item hitem key hkey
    rcases exists_of_givenAlias hitem hkey with ⟨a, ha, rfl⟩ | ⟨c, hc, rfl⟩
    · exact isIdentifierLine_resultAlias (haggregate a ha)
    · exact isIdentifierLine_columnAlias (hcolumn c hc)
  case filtered => exact fun f hf ↦ isIdentifierLine_of_acceptsColumn (hp.filters f hf).column
  case tagged =>
    exact fun f hf table name hvalue ↦
      isIdentifierLine_of_acceptsColumn ((hp.filters f hf).taggedColumn table name hvalue).1
  case conditions =>
    exact fun list _ c _ word column hparts ↦
      ⟨_, isIdentifier_of_aggregateParts? hparts, .inl rfl⟩
  case grouped =>
    intro c hc
    change c ∈ p.groupBy.getD [] at hc
    rcases hgroup : p.groupBy with - | names
    · simp [hgroup] at hc
    · rw [hgroup, Option.getD_some] at hc
      exact isIdentifierLine_of_acceptsColumn (hp.groupBy names hgroup c hc)
  case ordered => exact fun item hitem ↦ hcolumn _ (mem_of_mem_orderBy hitem)

/-- **The names of a statement are identifiers, up to a line feed.** Each embedded name is an
identifier that may have one line feed behind it, and they are identifiers to the last character
exactly when none of them has a line feed. -/
theorem compile_namesSatisfy (c : Compiler) (r : Request) {compiled : CompiledReport}
    (h : c.compile r = .ok compiled) :
    ∃ p, r.normalize = .ok p ∧ compiled.NamesSatisfy p IsIdentifierLine ∧
      (compiled.NamesSatisfy p IsIdentifier ↔
        compiled.NamesSatisfy p fun s ↦ '\n' ∉ s.toList) := by
  obtain ⟨hvalid, first, rest, htables, rfl⟩ := Request.exists_of_compile h
  have hflat : r.flat.tables = first.toSource :: rest.map TableEntry.toSource := by
    rw [Request.flat, htables, List.map_cons]
  have hline := namesSatisfy_isIdentifierLine (g := c.graph) hvalid.flat hflat c.dateFormat
  refine ⟨r.flat, Request.normalize_eq_flat hvalid.tables_ne_nil, hline, fun hnames ↦ ?_,
    fun hnames ↦ ?_⟩
  · exact (hline.and hnames).imp fun s hs ↦ (isIdentifier_iff hs.1).1 hs.2
  · exact (hline.and hnames).imp fun s hs ↦ (isIdentifier_iff hs.1).2 hs.2

/-- A request for one table, whose name ends in a line feed. -/
def lineFeedRequest : Request where
  tables := some [.name "sales\n"]

/-- **A name with a line feed behind it is accepted and embedded as it is.** -/
theorem compile_lineFeedRequest : ∃ compiled p,
    Compiler.compile {} lineFeedRequest = .ok compiled ∧ lineFeedRequest.normalize = .ok p ∧
      compiled.sql = "SELECT *\nFROM sales\n;" ∧ ¬ compiled.NamesSatisfy p IsIdentifier := by
  refine ⟨_, _, rfl, rfl, by decide, fun hnames ↦ ?_⟩
  have hbase : IsIdentifier "sales\n" := hnames.base
  exact absurd (isColumnPart_of_isIdentifier hbase '\n' (by decide)) (by decide)

/-- A request with names of every kind: in both tables and the condition between them, in the
columns and the aggregate, on both sides of a filter, and in the clauses on groups and order. -/
def namedRequest : Request where
  tables := some [.name "sales",
    .source { name := "stores", on := some ⟨some "sales.store_id", some "stores.id"⟩ }]
  columns := some [.name "stores.name"]
  aggregations := some [{ function := some .sum, column := some "sales.total" }]
  filters := some [{ column := "sales.store_id", value := .column "stores" "id" }]
  having := some (.conditions [
    { aggregation := "sum( sales.total )\n", comparison := .greater, value := .int 10 }])
  orderBy := some [{ column := some "stores.name" }]

theorem namedRequest_namesSatisfy : ∃ compiled p,
    Compiler.compile {} namedRequest = .ok compiled ∧ namedRequest.normalize = .ok p ∧
      compiled.NamesSatisfy p IsIdentifierLine := by
  have hvalid : namedRequest.Valid := Request.validate_eq_ok_iff.1 (by rfl)
  have hcompile := hvalid.compile_eq {} rfl
  obtain ⟨p, hp, hnames, -⟩ := compile_namesSatisfy {} namedRequest hcompile
  exact ⟨_, p, hcompile, hp, hnames⟩

end ReportQuery
