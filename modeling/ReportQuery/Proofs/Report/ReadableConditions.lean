import ReportQuery.Proofs.Report.Acceptance
import ReportQuery.Proofs.Sql.ConditionReader

/-!
# The conditions of a request can be read back

The text of the conditions on rows, and that of the conditions on groups, determine the
conditions: the reader of `Sql.readConditions` gives back what was built, in order and in the same
number, and each right side reads back to what its filter means (`readConditions_of_valid`). So
no value can add a condition, take one away or change one.

What is needed of a built condition is the form of its sides. A left side is an accepted column, a
call that turns a date into text, or an aggregate as it was sent, blank characters included; a
right side is well-formed because the request is valid.

## What a reader is given

The reader is given the text of a clause and nothing else, neither the number of conditions nor
their columns. It succeeds on every clause that is built from a valid request, and the conditions
that it gives are compared with those that were built, side by side. What a right side means is read
from it in a second step (`readOperand`), so a quoted text is compared with the text that the filter
intends and not with its spelling in SQL.
-/

namespace ReportQuery

open Sql

/-! ### The sides of built conditions -/

theorem sealed_inner {column : String} (h : acceptsColumn column = true) (dateFormat : String) :
    Sealed (fun t ↦ ')' ∉ t)
      (column.toList ++ [',', ' '] ++ (Value.text dateFormat).asLiteral.toList) := by
  have hcolumn := (isReference_of_acceptsColumn h).2
  have hplain : Sealed (fun t ↦ ')' ∉ t) column.toList :=
    sealed_of_plain
      (fun hmem ↦ Text.ne_of_class (hcolumn _ hmem) (d := '\'') (by decide) rfl)
      fun hmem ↦ Text.ne_of_class (hcolumn _ hmem) (d := ')') (by decide) rfl
  have hformat : Sealed (fun t ↦ ')' ∉ t) (Value.text dateFormat).asLiteral.toList := by
    rw [asLiteral_text]
    exact (isLiteral_atom _).wellFormed.sealed (by decide) (by decide)
  exact hplain.join (joins_not_mem _) (by decide) (by simp) (by decide) hformat

/-- An accepted column is a left side, bare or as the text of a date. -/
theorem leftSide_columnOperand {column : String} (h : acceptsColumn column = true)
    (comparison : Comparison) (dateFormat : String) :
    LeftSide (columnOperand column comparison dateFormat).toList := by
  rw [columnOperand]
  split
  · have hnone : Blanks [] := by simp [Blanks]
    have hcall : LeftSide ([] ++ "TO_CHAR".toList ++ [] ++ '(' :: _ ++ ')' :: []) :=
      .call hnone (by decide) (Text.forall_mem_of_all (by decide)) hnone (sealed_inner h dateFormat)
        hnone
    simpa using hcall
  · obtain ⟨name, ending, hcolumn, hne, hname, hending⟩ := exists_of_acceptsColumn h
    have hblanks : Blanks ending := by
      rcases hending with rfl | rfl
      · simp [Blanks]
      · exact fun c hc ↦ by rw [List.mem_singleton.1 hc]; decide
    rw [hcolumn]
    show LeftSide ([] ++ name ++ ending)
    exact .name (by simp [Blanks]) hne hname hblanks

/-- An accepted aggregate is a left side, however it is spelled. -/
theorem leftSide_aggregation {c : GroupCondition} (h : c.Valid) :
    LeftSide c.aggregation.toList := by
  obtain ⟨w, column, hparts, -, -⟩ := h
  have hform := aggregateForm_of_aggregateParts? hparts
  obtain ⟨b₁, b₂, b₃, b₄, b₅, ⟨hb₁, hb₂, hb₃, hb₄, hb₅⟩, hs⟩ := hform.parts
  have hword : ∀ c ∈ w, isColumnPart c = true :=
    fun c hc ↦ isColumnPart_of_isAlpha (hform.isAlpha_of_mem_word c hc)
  have hcolumn := (isColumnPart_of_isPlainColumn hform.isPlainColumn).2
  have hinner : ∀ d, Text.isBlank d = false → isColumnPart d = false → d ∉ b₃ ++ column ++ b₄ := by
    intro d hblank hpart hmem
    rcases List.mem_append.1 hmem with hmem | hmem
    · rcases List.mem_append.1 hmem with hmem | hmem
      · exact Text.ne_of_class (hb₃ d hmem) hblank rfl
      · exact Text.ne_of_class (hcolumn d hmem) hpart rfl
    · exact Text.ne_of_class (hb₄ d hmem) hblank rfl
  rw [hs]
  exact .call hb₁ hform.word_ne_nil hword hb₂
    (sealed_of_plain (hinner _ (by decide) (by decide)) (hinner _ (by decide) (by decide))) hb₅

/-- **The conditions of WHERE are read back** from the written clause. -/
theorem readConditions_where {filters : List Filter} (h : ∀ f ∈ filters, f.Valid)
    (dateFormat : String) : readConditions (WhereClause.build filters dateFormat).sql =
      some (WhereClause.build filters dateFormat).conditions := by
  refine readConditions_conjunction fun c hc ↦ ?_
  obtain ⟨f, hf, rfl⟩ := List.mem_map.1 hc
  refine ⟨leftSide_columnOperand (h f hf).column _ _, ⟨f.comparison, rfl⟩, ?_⟩
  rw [right_ofFilter]
  exact (wellFormed_operand fun table name hv ↦ ((h f hf).taggedColumn table name hv).1).rightSide

/-- **The conditions of HAVING are read back** likewise. -/
theorem readConditions_having {list : List GroupCondition} (h : ∀ c ∈ list, c.Valid) :
    readConditions (HavingClause.build (some (.conditions list))).sql =
      some (HavingClause.build (some (.conditions list))).conditions := by
  refine readConditions_conjunction fun condition hcondition ↦ ?_
  obtain ⟨c, hc, rfl⟩ := List.mem_map.1 hcondition
  refine ⟨leftSide_aggregation (h c hc), ⟨c.comparison, rfl⟩, ?_⟩
  show RightSide c.value.toValue.asLiteral.toList
  rw [asLiteral_toValue]
  exact Operand.WellFormed.rightSide (o := .atom c.value.atom) (isLiteral_atom c.value).wellFormed

/-! ### What a filter means -/

theorem intendedText_of_atom_eq_quoted {c : Comparison} {v : Scalar} {text : String}
    (h : c.atom v = .quoted text) : text = v.intendedText c := by
  rw [Comparison.atom] at h
  split at h
  · split at h
    · cases h
      rfl
    · cases h
  · cases h
    rfl

/-- A filter that is written between quotes has one value, and the quotes hold its intended text. -/
theorem exists_of_value_operand_eq_quoted {c : Comparison} {v : FilterValue} {text : String}
    (h : v.operand c = .atom (.quoted text)) :
    ∃ s, (v = .literal s ∨ v = .scalar s) ∧ text = s.intendedText c := by
  have hatom : ∀ s : Scalar, Operand.atom (c.atom s) = .atom (.quoted text) →
      text = s.intendedText c :=
    fun s hs ↦ intendedText_of_atom_eq_quoted (Operand.atom.inj hs)
  cases v with
  | column table name => cases h
  | literal s => exact ⟨s, .inl rfl, hatom s h⟩
  | list items => cases h
  | scalar s =>
    refine ⟨s, .inr rfl, ?_⟩
    cases s with
    | text t =>
      rw [FilterValue.operand] at h
      split at h
      · cases h
      · exact hatom _ h
    | null => exact hatom _ h
    | bool b => exact hatom _ h
    | int n => exact hatom _ h
    | float x => exact hatom _ h

/-- Between quotes stands the text that the filter intends. -/
theorem exists_of_operand_eq_quoted {f : Filter} {text : String}
    (h : f.operand = .atom (.quoted text)) :
    ∃ v, (f.value = .literal v ∨ f.value = .scalar v) ∧ text = v.intendedText f.comparison := by
  rw [Filter.operand] at h
  split at h
  · cases hvalue : f.value <;> rw [hvalue] at h <;> cases h
  · exact exists_of_value_operand_eq_quoted h

/-- Membership is tested in a list with one literal for each element. -/
theorem exists_of_among {f : Filter} (h : f.Valid) (hamong : f.comparison = .among) :
    ∃ items, membershipList f.value = .list items ∧
      f.operand = .list (items.map Scalar.atom) := by
  rw [Filter.operand, if_pos hamong]
  cases hvalue : f.value with
  | column table name => exact absurd hamong (h.taggedColumn table name hvalue).2
  | literal v => exact ⟨[v], rfl, rfl⟩
  | list items => exact ⟨items, rfl, rfl⟩
  | scalar v => exact ⟨[v], rfl, rfl⟩

/-- The right side of a built condition, read back, says what its filter means. -/
structure Filter.ReadsBack (dateFormat : String) (f : Filter) : Prop where
  operand : readOperand (Condition.ofFilter dateFormat f).right = some f.operand
  /-- Between quotes stands the intended text: the value, or the pattern that asks for it, or the
  value with a capital letter. -/
  quoted : ∀ text, readOperand (Condition.ofFilter dateFormat f).right =
      some (.atom (.quoted text)) →
    ∃ v, (f.value = .literal v ∨ f.value = .scalar v) ∧ text = v.intendedText f.comparison
  /-- Membership is tested in a list with one literal for each element, in order. -/
  membership : f.comparison = .among → ∃ items, membershipList f.value = .list items ∧
    readOperand (Condition.ofFilter dateFormat f).right = some (.list (items.map Scalar.atom))

/-- What is read back of a filter is what it asks for. -/
theorem Filter.Valid.readsBack {f : Filter} (h : f.Valid) (dateFormat : String) :
    f.ReadsBack dateFormat := by
  have hread : readOperand (Condition.ofFilter dateFormat f).right = some f.operand := by
    rw [right_ofFilter]
    exact readOperand_sql (wellFormed_operand fun table name hv ↦ (h.taggedColumn table name hv).1)
  refine ⟨hread, fun text htext ↦ ?_, fun hamong ↦ ?_⟩
  · rw [hread] at htext
    exact exists_of_operand_eq_quoted (Option.some.inj htext)
  · obtain ⟨items, hitems, hoperand⟩ := exists_of_among h hamong
    exact ⟨items, hitems, by rw [hread, hoperand]⟩

/-- **The conditions of an accepted request can be read back**, those on rows and those on groups,
for every date format. A right side reads back to the operand that its filter means, and a right
side on groups to its value. So the text of the conditions on rows determines these conditions. -/
theorem readConditions_of_valid (r : Request) (hvalid : r.validate = .ok ())
    (dateFormat : String) :
    (readConditions (WhereClause.build (r.filters.getD []) dateFormat).sql =
        some (WhereClause.build (r.filters.getD []) dateFormat).conditions ∧
      ∀ f ∈ r.filters.getD [], f.ReadsBack dateFormat) ∧
    (∀ list, r.having = some (.conditions list) →
      readConditions (HavingClause.build r.having).sql =
        some (HavingClause.build r.having).conditions ∧
      ∀ c ∈ list,
        readOperand (Condition.ofGroupCondition c).right = some (.atom c.value.atom)) ∧
    ∀ r' : Request, r'.validate = .ok () → ∀ dateFormat' : String,
      (WhereClause.build (r.filters.getD []) dateFormat).sql =
        (WhereClause.build (r'.filters.getD []) dateFormat').sql →
      (WhereClause.build (r.filters.getD []) dateFormat).conditions =
        (WhereClause.build (r'.filters.getD []) dateFormat').conditions := by
  have h := Request.validate_eq_ok_iff.1 hvalid
  have hwhere := readConditions_where h.filters dateFormat
  refine ⟨⟨hwhere, fun f hf ↦ (h.filters f hf).readsBack dateFormat⟩, fun list hlist ↦ ?_,
    fun r' hvalid' dateFormat' htext ↦ ?_⟩
  · rw [hlist]
    refine ⟨readConditions_having (h.having list hlist), fun c hc ↦ ?_⟩
    show readOperand c.value.toValue.asLiteral = _
    rw [asLiteral_toValue]
    exact readOperand_sql (o := .atom c.value.atom) (isLiteral_atom c.value).wellFormed
  · have hwhere' :=
      readConditions_where (Request.validate_eq_ok_iff.1 hvalid').filters dateFormat'
    rw [htext, hwhere'] at hwhere
    exact (Option.some.inj hwhere).symm

/-- Conditions whose columns are called like words of a condition, and whose values hold conditions,
commas and parentheses. -/
def trickyRequest : Request where
  tables := some [.name "sales"]
  filters := some [
    { column := "AND", value := .scalar (.text "x' AND y = 'z") },
    { column := "LIKE", comparison := .notLike, value := .literal (.text "a.b") },
    { column := "IN", comparison := .among, value := .list [.text "a', (b", .int (-5), .null] }]
  having := some (.conditions [
    { aggregation := " sum ( AND ) ", comparison := .atLeast, value := .text "1 AND 2" }])

/-- The same conditions on rows, with the first value tagged as a literal and the list elements in
another form. -/
def retaggedRequest : Request where
  tables := some [.name "sales"]
  filters := some [
    { column := "AND", value := .literal (.text "X' AND y = 'z") },
    { column := "LIKE", comparison := .notLike, value := .literal (.text "%a.b%") },
    { column := "IN", comparison := .among, value := .list [.text "a', (b", .text " -5", .null] }]

theorem readConditions_trickyRequest :
    trickyRequest.validate = .ok () ∧ retaggedRequest.validate = .ok () ∧
    readConditions (WhereClause.build (trickyRequest.filters.getD [])).sql = some [
      ⟨"AND", "=", "'X'' AND y = ''z'"⟩, ⟨"LIKE", "NOT LIKE", "'%a.b%'"⟩,
      ⟨"IN", "IN", "('a'', (b', -5, NULL)"⟩] ∧
    readConditions (HavingClause.build trickyRequest.having).sql = some [
      ⟨" sum ( AND ) ", ">=", "'1 AND 2'"⟩] ∧
    (WhereClause.build (trickyRequest.filters.getD [])).conditions =
      (WhereClause.build (retaggedRequest.filters.getD [])).conditions := by
  have hvalid : trickyRequest.validate = .ok () := by rfl
  have hvalid' : retaggedRequest.validate = .ok () := by rfl
  have htext : (WhereClause.build (trickyRequest.filters.getD [])).sql =
      (WhereClause.build (retaggedRequest.filters.getD [])).sql := by decide +kernel
  obtain ⟨⟨hwhere, -⟩, hhaving, hsame⟩ :=
    readConditions_of_valid trickyRequest hvalid defaultDateFormat
  refine ⟨hvalid, hvalid', hwhere.trans ?_, (hhaving _ rfl).1.trans ?_,
    hsame retaggedRequest hvalid' defaultDateFormat htext⟩
  · decide +kernel
  · decide +kernel

end ReportQuery
