import ReportQuery.Proofs.JoinPlan.Placement
import ReportQuery.Proofs.Report.Acceptance
import ReportQuery.Proofs.Sql.SafeText

/-!
# Statements are safe

The statement of an accepted request closes its literals, has one semicolon that is code, its last
character, and no comment, double quote, backslash or dollar sign as code
(`compile_isSafeStatement`). Nothing is asked of the values of the request: not of filter values,
list elements, values of group conditions or patterns, nor of the date format.

The proof goes through the clauses in the order of the statement. Names come from the acceptance of
the request (`Report.Valid`) or from the graph, whose edges are asked to hold plain names, since a
loaded graph is not checked. All else is a literal, and safe because it is
(`Sql.Operand.WellFormed.isSafe`).

## What safety is made of

A statement is a list of lines with a semicolon behind the last one. Each line is safe by itself,
and safe texts stay safe when they are put side by side or joined with plain separators
(`IsSafe.join`, `isSafe_intercalate`); that is where the conditions on dashes and quotes at a seam
are used up. So no lemma below speaks of two clauses at once, and a clause that is built in another
way needs another lemma and no other proof.
-/

namespace ReportQuery

open Sql

/-! ### Conditions -/

namespace Sql

theorem isPlain_word_comparison : ∀ c : Comparison, IsPlain (word c) := by
  intro c
  cases c <;> decide

/-- A condition is safe when its sides are. -/
theorem Condition.isSafe_sql {c : Condition} {comparison : Comparison}
    (hoperator : c.operator = word comparison) (hleft : IsSafe c.left) (hright : IsSafe c.right) :
    IsSafe c.sql := by
  have hword : IsSafe c.operator := by
    rw [hoperator]
    exact (isPlain_word_comparison comparison).isSafe
  exact (hleft.join hword (by decide) (by decide)).join hright (by decide) (by decide)

/-- Conditions are safe together when each of them is. -/
theorem isSafe_conjunction {conditions : List Condition}
    (h : ∀ c ∈ conditions, IsSafe c.sql) : IsSafe (conjunction conditions) := by
  refine isSafe_intercalate (by decide) (by decide) fun t ht ↦ ?_
  obtain ⟨c, hc, rfl⟩ := List.mem_map.1 ht
  exact h c hc

/-- The date format is a literal, whatever it holds. -/
theorem isSafe_columnOperand {column : String} (h : acceptsColumn column = true)
    (comparison : Comparison) (dateFormat : String) :
    IsSafe (columnOperand column comparison dateFormat) := by
  have hcolumn : IsSafe column := isSafe_of_isReference (isReference_of_acceptsColumn h)
  have hformat : IsSafe (Value.text dateFormat).asLiteral := by
    rw [asLiteral_text]
    exact (isLiteral_atom _).wellFormed.isSafe
  rw [columnOperand]
  split
  · have hopened : IsSafe ("TO_CHAR(" ++ column) := hcolumn.plain_append (by decide)
    exact (hopened.join hformat (by decide) (by decide)).append_plain (by decide)
  · exact hcolumn

/-- The condition of a valid filter is safe. -/
theorem isSafe_ofFilter {f : Filter} (h : f.Valid) (dateFormat : String) :
    IsSafe (Condition.ofFilter dateFormat f).sql := by
  refine Condition.isSafe_sql rfl (isSafe_columnOperand h.column _ _) ?_
  rw [right_ofFilter]
  exact (wellFormed_operand fun table name hvalue ↦ (h.taggedColumn table name hvalue).1).isSafe

/-- The condition of a valid condition on groups is safe. -/
theorem isSafe_ofGroupCondition {c : GroupCondition} (h : c.Valid) :
    IsSafe (Condition.ofGroupCondition c).sql := by
  obtain ⟨w, column, hparts, -, -⟩ := h
  have hleft : IsSafe c.aggregation := (aggregateForm_of_aggregateParts? hparts).isPlain.isSafe
  have hright : IsSafe c.value.toValue.asLiteral := by
    rw [asLiteral_toValue]
    exact (isLiteral_atom c.value).wellFormed.isSafe
  exact Condition.isSafe_sql rfl hleft hright

/-! ### SELECT -/

/-- The alias of a name is safe. -/
theorem isSafe_columnAlias {column : String} (h : IsReference column) :
    IsSafe (columnAlias column) := by
  refine (isPlain_of_isReferenceChar fun c hc ↦ ?_).isSafe
  rw [columnAlias, String.toList_ofList] at hc
  obtain ⟨d, hd, rfl⟩ := List.mem_map.1 hc
  split
  · decide
  · exact h.2 d hd

theorem isPlain_word_aggregateFunction : ∀ f : AggregateFunction, IsPlain (word f) := by
  intro f
  cases f <;> decide

/-- An aggregate of a name is safe. -/
theorem isSafe_expression {a : Aggregate} (h : IsReference a.column) : IsSafe a.expression := by
  have hfunction : IsSafe (word a.function) := (isPlain_word_aggregateFunction _).isSafe
  have hcolumn : IsSafe a.column := isSafe_of_isReference h
  exact (hfunction.join hcolumn (by decide) (by decide)).append_plain (by decide)

theorem isSafe_resultAlias {a : Aggregate} (h : IsReference a.column) : IsSafe a.resultAlias := by
  have hfunction : IsSafe (word a.function) := (isPlain_word_aggregateFunction _).isSafe
  exact hfunction.join (isSafe_columnAlias h) (by decide) (by decide)

/-- An item is safe when its expression and its alias are. -/
theorem SelectItem.isSafe_sql {i : SelectItem} (hexpression : IsSafe i.expression)
    (halias : ∀ a, i.givenAlias = some a → IsSafe a) : IsSafe i.sql := by
  rw [SelectItem.sql]
  split
  · next a ha =>
    rw [SelectItem.writtenAlias?, Option.filter_eq_some_iff] at ha
    exact hexpression.join (halias a ha.1) (by decide) (by decide)
  · exact hexpression

/-- **SELECT is safe** when its columns are accepted. -/
theorem isSafe_select {columns : List String} {aggregates : List Aggregate}
    (hcolumns : ∀ c ∈ columns, acceptsColumn c = true)
    (haggregates : ∀ a ∈ aggregates, acceptsColumn a.column = true) :
    IsSafe (SelectClause.build columns aggregates).sql := by
  rw [SelectClause.sql]
  split
  · exact IsPlain.isSafe (by decide)
  · refine isSafe_intercalate (by decide) (by decide) fun t ht ↦ ?_
    obtain ⟨i, hi, rfl⟩ := List.mem_map.1 ht
    rcases List.mem_append.1 hi with hi | hi
    · obtain ⟨a, ha, rfl⟩ := List.mem_map.1 hi
      have hcolumn := isReference_of_acceptsColumn (haggregates a ha)
      refine SelectItem.isSafe_sql (isSafe_expression hcolumn) fun b hb ↦ ?_
      cases hb
      exact isSafe_resultAlias hcolumn
    · obtain ⟨c, hc, rfl⟩ := List.mem_map.1 hi
      have hcolumn := isReference_of_acceptsColumn (hcolumns c hc)
      refine SelectItem.isSafe_sql (isSafe_of_isReference hcolumn) fun b hb ↦ ?_
      dsimp only at hb
      split at hb
      · cases hb
        exact isSafe_columnAlias hcolumn
      · cases hb

end Sql

/-! ### FROM -/

/-- The names of an edge consist of letters, digits and underscores. -/
def Relation.Edge.HasPlainNames (e : Relation.Edge) : Prop :=
  ∀ s ∈ [e.owner.display, e.referenced.display, e.column.display, e.key.display],
    ∀ c ∈ s.toList, Text.isWordChar c = true

instance (e : Relation.Edge) : Decidable e.HasPlainNames :=
  haveI : DecidablePred fun s : String ↦ ∀ c ∈ s.toList, Text.isWordChar c = true :=
    fun s ↦ List.decidableBAll (Text.isWordChar · = true) s.toList
  List.decidableBAll (fun s : String ↦ ∀ c ∈ s.toList, Text.isWordChar c = true)
    [e.owner.display, e.referenced.display, e.column.display, e.key.display]

/-- Edges with plain names have safe sides. -/
theorem Relation.Edge.HasPlainNames.isSafe_sides {e : Relation.Edge} (h : e.HasPlainNames) :
    IsSafe e.ownerSide ∧ IsSafe e.referencedSide := by
  have hname : ∀ s ∈ [e.owner.display, e.referenced.display, e.column.display, e.key.display],
      IsSafe s := fun s hs ↦
    (isPlain_of_isReferenceChar fun c hc ↦ isReferenceChar_of_isWordChar (h s hs c hc)).isSafe
  have howner := hname e.owner.display (by simp)
  have hreferenced := hname e.referenced.display (by simp)
  have hcolumn := hname e.column.display (by simp)
  have hkey := hname e.key.display (by simp)
  exact ⟨howner.join hcolumn (by decide) (by decide), hreferenced.join hkey (by decide) (by decide)⟩

theorem isPlain_word_joinType : ∀ t : JoinType, IsPlain (word t) := by
  intro t
  cases t <;> decide

/-- A join is safe when its table and both sides of its condition are. -/
theorem JoinStep.isSafe_sql {step : JoinStep} (htable : IsSafe step.table)
    (hleft : IsSafe step.left) (hright : IsSafe step.right) : IsSafe step.sql := by
  have hword : IsSafe (word step.joinType) := (isPlain_word_joinType _).isSafe
  have hjoined : IsSafe (word step.joinType ++ " JOIN " ++ step.table) :=
    hword.join htable (by decide) (by decide)
  have hon : IsSafe (word step.joinType ++ " JOIN " ++ step.table ++ " ON " ++ step.left) :=
    hjoined.join hleft (by decide) (by decide)
  exact hon.join hright (by decide) (by decide)

/-- **FROM is safe** when the tables are valid and the edges have plain names. -/
theorem isSafe_source {g : Relation.Graph} (hgraph : ∀ e ∈ g.edges, e.HasPlainNames)
    {default : JoinType} {ts : List TableSource} (hts : ∀ t ∈ ts, t.Valid) {plan : JoinPlan}
    (hplan : JoinPlan.resolve? g default ts = some plan) :
    IsSafe (FromClause.build plan).sql := by
  obtain ⟨⟨base, hbase, hbase_eq⟩, hsteps⟩ := JoinPlan.sources_of_resolve? hplan
  have htable : ∀ t ∈ ts, IsSafe t.name :=
    fun t ht ↦ isSafe_of_isReference (isReference_of_acceptsTable (hts t ht).name)
  refine isSafe_intercalate (by decide) (by decide) fun line hline ↦ ?_
  rcases List.mem_cons.1 hline with rfl | hline
  · show IsSafe plan.base
    rw [hbase_eq]
    exact htable base hbase
  · obtain ⟨step, hstep, rfl⟩ := List.mem_map.1 hline
    obtain ⟨t, ht, hname, hsides | ⟨e, he, hleft, hright⟩⟩ := hsteps step hstep
    · obtain ⟨hleft, hright⟩ := (hts t ht).sides _ _ hsides
      exact JoinStep.isSafe_sql (hname ▸ htable t ht)
        (isSafe_of_isReference (isReference_of_acceptsColumn hleft))
        (isSafe_of_isReference (isReference_of_acceptsColumn hright))
    · obtain ⟨howner, hreferenced⟩ := (hgraph e he).isSafe_sides
      exact JoinStep.isSafe_sql (hname ▸ htable t ht) (hleft ▸ howner) (hright ▸ hreferenced)

/-! ### GROUP BY, HAVING and ORDER BY -/

namespace Sql

/-- **GROUP BY is safe** when its columns are accepted. -/
theorem isSafe_groupBy {columns : Option (List String)}
    (h : ∀ names, columns = some names → ∀ c ∈ names, acceptsColumn c = true) :
    IsSafe (GroupByClause.build columns).sql := by
  refine isSafe_intercalate (by decide) (by decide) fun c hc ↦ ?_
  cases columns with
  | none => cases hc
  | some names => exact isSafe_of_isReference (isReference_of_acceptsColumn (h names rfl c hc))

/-- **HAVING is safe** when it is no text and its conditions are valid. -/
theorem isSafe_having {having : Option Having} (hraw : ∀ text, having ≠ some (.raw text))
    (h : ∀ list, having = some (.conditions list) → ∀ c ∈ list, c.Valid) :
    IsSafe (HavingClause.build having).sql := by
  match having with
  | none => exact IsPlain.isSafe (by decide)
  | some (.raw text) => exact absurd rfl (hraw text)
  | some (.conditions list) =>
    refine isSafe_conjunction fun condition hcondition ↦ ?_
    obtain ⟨c, hc, rfl⟩ := List.mem_map.1 hcondition
    exact isSafe_ofGroupCondition (h list rfl c hc)

/-- Only selected columns are ordered by, and these are acceptable. -/
theorem isSafe_orderBy {entries : List OrderEntry} {selected : List String}
    (h : ∀ c ∈ selected, acceptsColumn c = true) :
    IsSafe (OrderByClause.build entries selected).sql := by
  refine isSafe_intercalate (by decide) (by decide) fun t ht ↦ ?_
  obtain ⟨i, hi, rfl⟩ := List.mem_map.1 ht
  obtain ⟨entry, -, hentry⟩ := List.mem_filterMap.1 hi
  rw [OrderItem.ofEntry?] at hentry
  split at hentry
  · next c _ =>
    split at hentry
    · next hselected =>
      cases hentry
      have hcolumn := isSafe_of_isReference (isReference_of_acceptsColumn (h c hselected.2))
      have hdirection : IsSafe (word entry.direction) := by
        cases entry.direction <;> exact IsPlain.isSafe (by decide)
      exact hcolumn.join hdirection (by decide) (by decide)
    · cases hentry
  · cases hentry

end Sql

/-! ### The statement -/

/-- The lines of a statement are safe when its parts are. -/
theorem QueryParts.isSafe_lines {p : QueryParts} (h : ∀ body ∈ [p.select, p.source, p.filter,
    p.groupBy, p.having, p.orderBy], IsSafe body) : ∀ line ∈ p.lines, IsSafe line := by
  have hline : ∀ keyword body line : String, IsPlain keyword → IsSafe body →
      QueryParts.line? keyword body = some line → IsSafe line := by
    intro keyword body line hkeyword hbody hline
    rw [QueryParts.line?] at hline
    split at hline
    · cases hline
    · cases hline
      exact hkeyword.isSafe.join hbody (by decide) (by decide)
  intro line hmem
  simp only [QueryParts.lines, List.mem_append, List.mem_cons, List.not_mem_nil, or_false,
    List.mem_filterMap, id_eq] at hmem
  rcases hmem with (rfl | rfl) | ⟨given, hgiven, rfl⟩
  · exact (h p.select (by simp)).plain_append (by decide)
  · exact (h p.source (by simp)).plain_append (by decide)
  · rcases hgiven with hgiven | hgiven | hgiven | hgiven
    · exact hline "WHERE" p.filter _ (by decide) (h p.filter (by simp)) hgiven.symm
    · exact hline "GROUP BY" p.groupBy _ (by decide) (h p.groupBy (by simp)) hgiven.symm
    · exact hline "HAVING" p.having _ (by decide) (h p.having (by simp)) hgiven.symm
    · exact hline "ORDER BY" p.orderBy _ (by decide) (h p.orderBy (by simp)) hgiven.symm

/-- A clause that is left out is the empty text. -/
theorem isSafe_ite {present : Bool} {s : String} (h : IsSafe s) :
    IsSafe (if present then s else "") := by
  split
  · exact h
  · exact IsPlain.isSafe (by decide)

/-- The lines of a compiled report, all that stands in front of the semicolon, are safe. -/
theorem isSafe_lines_of_valid {g : Relation.Graph} (hgraph : ∀ e ∈ g.edges, e.HasPlainNames)
    {p : Report} (hp : p.Valid) (hraw : ∀ text, p.having ≠ some (.raw text)) {plan : JoinPlan}
    (hplan : JoinPlan.resolve? g p.joinType p.tables = some plan) (dateFormat : String) :
    IsSafe ("\n".intercalate (Compiler.assemble dateFormat p plan).parts.lines) := by
  have hfilter : IsSafe (WhereClause.build p.filters dateFormat).sql := by
    refine isSafe_conjunction fun condition hcondition ↦ ?_
    obtain ⟨f, hf, rfl⟩ := List.mem_map.1 hcondition
    exact isSafe_ofFilter (hp.filters f hf) dateFormat
  refine isSafe_intercalate (by decide) (by decide) (QueryParts.isSafe_lines fun body hbody ↦ ?_)
  simp only [List.mem_cons, List.not_mem_nil, or_false] at hbody
  rcases hbody with rfl | rfl | rfl | rfl | rfl | rfl
  · exact isSafe_select hp.columns hp.aggregates
  · exact isSafe_source hgraph hp.tables hplan
  · exact isSafe_ite hfilter
  · exact isSafe_ite (isSafe_groupBy hp.groupBy)
  · exact isSafe_ite (isSafe_having hraw hp.having)
  · exact isSafe_ite (isSafe_orderBy hp.columns)

/-- **The statement of an accepted request is safe**, for every date format and every graph of
plain names, and whatever the values of the request hold. Only a text in the place of group
conditions is excluded, since that is used as it is. -/
theorem compile_isSafeStatement (c : Compiler) (r : Request) (hvalid : r.validate = .ok ())
    (hraw : ∀ text, r.having ≠ some (.raw text)) (hgraph : ∀ e ∈ c.graph.edges, e.HasPlainNames) :
    ∃ compiled, c.compile r = .ok compiled ∧ IsSafeStatement compiled.sql := by
  obtain ⟨p, plan, -, hp, hhaving, hplan, hcompile⟩ :=
    (Request.validate_eq_ok_iff.1 hvalid).exists_compile c
  refine ⟨_, hcompile, ?_⟩
  exact (isSafe_lines_of_valid hgraph hp (hhaving ▸ hraw) hplan c.dateFormat).isSafeStatement

/-- A request whose values try to leave their literals, on every road that a value can take. -/
def hostileRequest : Request where
  tables := some [.name "sales", .name "stores"]
  columns := some [.name "sales.store_id"]
  aggregations := some [{ function := some .sum, column := some "sales.total" }]
  filters := some [
    { column := "stores.name", value := .scalar (.text "x'; DROP TABLE sales; --") },
    { column := "sales.created_at", comparison := .like, value := .scalar (.text "'\\$$/*") },
    { column := "sales.id", comparison := .among, value := .list [.text "a', 'b", .int (-5)] }]
  having := some (.conditions [
    { aggregation := " sum ( sales.total ) ", comparison := .notEqual, value := .text "1'--" }])

/-- One edge, by which the two tables of the request are joined. -/
def salesGraph : Relation.Graph :=
  .ofEdges [{ owner := .text "sales", referenced := .text "stores", column := .text "store_id" }]

theorem compile_hostileRequest_isSafeStatement : hostileRequest.validate = .ok () ∧
    (∀ text, hostileRequest.having ≠ some (.raw text)) ∧
    (∀ e ∈ salesGraph.edges, e.HasPlainNames) ∧
    ∃ compiled, Compiler.compile { graph := salesGraph } hostileRequest = .ok compiled ∧
      IsSafeStatement compiled.sql := by
  have hvalid : hostileRequest.validate = .ok () := by rfl
  have hraw : ∀ text, hostileRequest.having ≠ some (.raw text) := by simp [hostileRequest]
  have hgraph : ∀ e ∈ salesGraph.edges, e.HasPlainNames := by decide
  exact ⟨hvalid, hraw, hgraph,
    compile_isSafeStatement { graph := salesGraph } hostileRequest hvalid hraw hgraph⟩

end ReportQuery
