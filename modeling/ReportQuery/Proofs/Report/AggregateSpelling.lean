import ReportQuery.Proofs.Report.Acceptance
import ReportQuery.Proofs.Sql.Identifier

/-!
# Aggregates as conditions on groups spell them

An aggregate is written in two ways: by the SELECT clause, from a function and a column
(`Aggregate.expression`), and by whoever asks for a condition on groups, as a text that is checked
and then used as it is. This file shows that the two agree. The texts that are accepted are exactly
the spellings of aggregates over identifiers, where a spelling may have the function in letters of
any case and blank characters around its parts (`Aggregate.SpelledBy`), and each is the expression
of its aggregate again when it is written without blank characters and with its function in
capitals (`canonicalAggregate`).

What is accepted is decided by one reader, which takes the longest run of letters, then the longest
run of name characters between the parentheses. `aggregateParts?_eq_some_iff` says that nothing is
missed in this way: `AggregateForm` only asks that there be some way to cut the text.
-/

namespace ReportQuery

open Sql

/-! ### Reading an aggregate -/

namespace Sql

/-- No blank character is a basic letter. -/
theorem isAlpha_of_isBlank {c : Char} (h : Text.isBlank c = true) : c.isAlpha = false := by
  rw [Bool.eq_false_iff]
  intro halpha
  rw [isBlank_of_isColumnPart (isColumnPart_of_isAlpha halpha)] at h
  cases h

theorem isColumnPart_of_isBlank {c : Char} (h : Text.isBlank c = true) :
    isColumnPart c = false := by
  rw [Bool.eq_false_iff]
  intro hpart
  rw [isBlank_of_isColumnPart hpart] at h
  cases h

/-- A run of characters of a class ends where blank characters and a mark outside of it follow. -/
theorem cut_append {p : Char → Bool} {run blanks : List Char} {mark : Char}
    (hrun : ∀ c ∈ run, p c = true) (hblanks : ∀ c ∈ blanks, p c = false) (hmark : p mark = false)
    (rest : List Char) :
    (run ++ (blanks ++ mark :: rest)).takeWhile p = run ∧
      (run ++ (blanks ++ mark :: rest)).dropWhile p = blanks ++ mark :: rest := by
  rw [List.takeWhile_append_of_pos hrun, List.dropWhile_append_of_pos hrun]
  rcases blanks with - | ⟨b, blanks⟩
  · simp [hmark]
  · simp [hblanks b (by simp)]

/-- What has the form of an aggregate is read as it. -/
theorem AggregateForm.aggregateParts?_eq {s word column : List Char}
    (h : AggregateForm s word column) : aggregateParts? s = some (word, column) := by
  obtain ⟨b₁, b₂, b₃, b₄, b₅, ⟨hb₁, hb₂, hb₃, hb₄, hb₅⟩, hs⟩ := h.parts
  obtain ⟨hcolumn_ne, hcolumn⟩ := isColumnPart_of_isPlainColumn h.isPlainColumn
  obtain ⟨w, ws, hword⟩ := List.exists_cons_of_ne_nil h.word_ne_nil
  obtain ⟨d, ds, hname⟩ := List.exists_cons_of_ne_nil hcolumn_ne
  have hw : Text.isBlank w = false := isBlank_of_isColumnPart
    (isColumnPart_of_isAlpha (h.isAlpha_of_mem_word w (by simp [hword])))
  have hd : Text.isBlank d = false := isBlank_of_isColumnPart (hcolumn d (by simp [hname]))
  -- the word is cut off behind the blank characters in front, the column behind the parenthesis
  have hstart : Text.trimStart s = word ++ (b₂ ++ '(' :: (b₃ ++ column ++ b₄ ++ ')' :: b₅)) := by
    rw [hs, hword]
    simp only [List.append_assoc, List.cons_append]
    rw [Text.trimStart_append hb₁, Text.trimStart_of_not_blank hw]
  obtain ⟨htake, hdrop⟩ := cut_append (p := Char.isAlpha) h.isAlpha_of_mem_word
    (fun c hc ↦ isAlpha_of_isBlank (hb₂ c hc)) (by decide : '('.isAlpha = false)
    (b₃ ++ column ++ b₄ ++ ')' :: b₅)
  have hinside : Text.trimStart (b₃ ++ column ++ b₄ ++ ')' :: b₅) =
      column ++ (b₄ ++ ')' :: b₅) := by
    rw [hname]
    simp only [List.append_assoc, List.cons_append]
    rw [Text.trimStart_append hb₃, Text.trimStart_of_not_blank hd]
  obtain ⟨htake', hdrop'⟩ := cut_append (p := isColumnPart) hcolumn
    (fun c hc ↦ isColumnPart_of_isBlank (hb₄ c hc)) (by decide : isColumnPart ')' = false) b₅
  have hopen : Text.trimStart (b₂ ++ '(' :: (b₃ ++ column ++ b₄ ++ ')' :: b₅)) =
      '(' :: (b₃ ++ column ++ b₄ ++ ')' :: b₅) := by
    rw [Text.trimStart_append hb₂, Text.trimStart_of_not_blank (by decide)]
  have hclose : Text.trimStart (b₄ ++ ')' :: b₅) = ')' :: b₅ := by
    rw [Text.trimStart_append hb₄, Text.trimStart_of_not_blank (by decide)]
  have hblank : b₅.all Text.isBlank = true := List.all_eq_true.2 hb₅
  simp only [aggregateParts?, hstart, htake, hdrop, hopen, hinside, htake', hdrop', hclose,
    h.isPlainColumn, hblank, Bool.and_true]
  rw [if_pos (by simpa using h.word_ne_nil)]

/-- **A text is read as an aggregate exactly when it has the form of one**, with these parts. -/
theorem aggregateParts?_eq_some_iff {s word column : List Char} :
    aggregateParts? s = some (word, column) ↔ AggregateForm s word column :=
  ⟨aggregateForm_of_aggregateParts?, AggregateForm.aggregateParts?_eq⟩

end Sql

/-! ### Spellings -/

/-- The text spells the aggregate: it has the function in letters of any case and the column as it
is between parentheses, with blank characters in front of and behind each of them. -/
def Aggregate.SpelledBy (a : Aggregate) (s : String) : Prop :=
  ∃ w b₁ b₂ b₃ b₄ b₅, w.map Char.toUpper = (word a.function).toList ∧
    (Blanks b₁ ∧ Blanks b₂ ∧ Blanks b₃ ∧ Blanks b₄ ∧ Blanks b₅) ∧
    s.toList = b₁ ++ w ++ b₂ ++ '(' :: (b₃ ++ a.column.toList ++ b₄) ++ ')' :: b₅

/-- The text without blank characters and, up to its first parenthesis, in capitals. -/
def canonicalAggregate (s : String) : String :=
  let t := s.toList.filter fun c ↦ !Text.isBlank c
  String.ofList ((t.takeWhile (· ≠ '(')).map Char.toUpper ++ t.dropWhile (· ≠ '('))

/-- Nothing is wrong with a condition on groups that has the text for its aggregate, as long as its
comparison fits. -/
def AcceptedForGroups (s : String) : Prop :=
  ∀ c : GroupCondition, c.aggregation = s → c.comparison.fitsAggregate = true → c.violations = []

/-- Only small letters have a capital of their own, so nothing else becomes a letter. -/
theorem isAlpha_of_isAlpha_toUpper {c : Char} (h : c.toUpper.isAlpha = true) :
    c.isAlpha = true := by
  by_cases hlower : c.isLower = true
  · exact Bool.or_eq_true_iff.2 (.inr hlower)
  · have hself : c.toUpper = c := dif_neg fun ⟨hleast, hgreatest⟩ ↦
      hlower (Bool.and_eq_true_iff.2 ⟨decide_eq_true hleast, decide_eq_true hgreatest⟩)
    rwa [hself] at h

/-- The name of a function consists of basic letters. -/
theorem isAlpha_of_mem_word (f : AggregateFunction) : ∀ c ∈ (word f).toList, c.isAlpha = true :=
  Text.forall_mem_of_all (by cases f <;> decide)

/-- A spelling has the form of an aggregate, for the column of what it spells. -/
theorem Aggregate.SpelledBy.exists_form {a : Aggregate} {s : String} (h : a.SpelledBy s)
    (hcolumn : IsIdentifier a.column) : ∃ w, AggregateForm s.toList w a.column.toList ∧
      w.map Char.toUpper = (word a.function).toList := by
  obtain ⟨w, b₁, b₂, b₃, b₄, b₅, hw, hblanks, hs⟩ := h
  refine ⟨w, ⟨⟨b₁, b₂, b₃, b₄, b₅, hblanks, hs⟩, ?_, fun c hc ↦ ?_,
    isPlainColumn_of_isIdentifier hcolumn⟩, hw⟩
  · rintro rfl
    exact ne_nil_of_isPlainName (isPlainName_word a.function) hw.symm
  · refine isAlpha_of_isAlpha_toUpper (isAlpha_of_mem_word a.function _ ?_)
    rw [← hw]
    exact List.mem_map_of_mem hc

/-- A text is accepted exactly when it has the form of an aggregate with a known function. -/
theorem acceptedForGroups_iff {s : String} : AcceptedForGroups s ↔
    ∃ w column, AggregateForm s.toList w column ∧
      ∃ f : AggregateFunction, w.map Char.toUpper = (word f).toList := by
  have hvalid : ∀ c : GroupCondition, c.aggregation = s → c.comparison.fitsAggregate = true →
      (c.Valid ↔ ∃ w column, AggregateForm s.toList w column ∧
        ∃ f : AggregateFunction, w.map Char.toUpper = (word f).toList) := by
    rintro c rfl hfits
    rw [GroupCondition.Valid]
    refine exists_congr fun w ↦ exists_congr fun column ↦ and_congr aggregateParts?_eq_some_iff ?_
    rw [and_iff_left hfits, Option.isSome_iff_exists]
    refine exists_congr fun f ↦ ⟨fun h ↦ ?_, fun h ↦ ?_⟩
    · have hword := List.find?_some h
      rw [decide_eq_true_eq] at hword
      rw [hword, String.toList_ofList]
    · rw [h, String.ofList_toList, AggregateFunction.ofWord?_word]
  constructor
  · intro h
    have hviolations := h { aggregation := s } rfl rfl
    rw [GroupCondition.violations_eq_nil_iff] at hviolations
    exact (hvalid _ rfl rfl).1 hviolations
  · intro h c hc hfits
    rw [GroupCondition.violations_eq_nil_iff]
    exact (hvalid c hc hfits).2 h

/-- A spelling without its blank characters and in capitals is the expression. -/
theorem Aggregate.SpelledBy.canonicalAggregate_eq {a : Aggregate} {s : String}
    (h : a.SpelledBy s) (hcolumn : IsIdentifier a.column) :
    canonicalAggregate s = a.expression := by
  obtain ⟨w, hform, hw⟩ := h.exists_form hcolumn
  obtain ⟨b₁, b₂, b₃, b₄, b₅, ⟨hb₁, hb₂, hb₃, hb₄, hb₅⟩, hs⟩ := hform.parts
  have hblank : ∀ {b : List Char}, Blanks b → b.filter (fun c ↦ !Text.isBlank c) = [] :=
    fun hb ↦ List.filter_eq_nil_iff.2 fun c hc ↦ by simp [hb c hc]
  have hkept : ∀ {t : List Char}, (∀ c ∈ t, isColumnPart c = true) →
      t.filter (fun c ↦ !Text.isBlank c) = t :=
    fun ht ↦ List.filter_eq_self.2 fun c hc ↦ by simp [isBlank_of_isColumnPart (ht c hc)]
  have hname : ∀ c ∈ a.column.toList, isColumnPart c = true := isColumnPart_of_isIdentifier hcolumn
  have hletters : ∀ c ∈ w, isColumnPart c = true :=
    fun c hc ↦ isColumnPart_of_isAlpha (hform.isAlpha_of_mem_word c hc)
  have hopen : ∀ c ∈ w, decide (c ≠ '(') = true := fun c hc ↦
    decide_eq_true (Text.ne_of_class (hform.isAlpha_of_mem_word c hc) (by decide))
  -- without its blank characters the spelling is the two parts and the brackets
  have hfiltered : s.toList.filter (fun c ↦ !Text.isBlank c) =
      w ++ '(' :: (a.column.toList ++ [')']) := by
    rw [hs]
    simp only [List.filter_append, List.filter_cons, hblank hb₁, hblank hb₂, hblank hb₃,
      hblank hb₄, hblank hb₅, hkept hletters, hkept hname]
    simp [show Text.isBlank '(' = false by decide, show Text.isBlank ')' = false by decide]
  refine String.toList_inj.1 ?_
  rw [canonicalAggregate, hfiltered, List.takeWhile_append_of_pos hopen,
    List.dropWhile_append_of_pos hopen]
  simp [hw, Aggregate.expression]

/-- What has the form of an aggregate with a known function spells an aggregate. -/
theorem exists_spelledBy {s : String} {w column : List Char} (h : AggregateForm s.toList w column)
    {f : AggregateFunction} (hw : w.map Char.toUpper = (word f).toList) :
    ∃ a : Aggregate, IsIdentifier a.column ∧ a.SpelledBy s := by
  obtain ⟨b₁, b₂, b₃, b₄, b₅, hblanks, hs⟩ := h.parts
  refine ⟨⟨f, String.ofList column⟩, isIdentifier_of_isPlainColumn h.isPlainColumn,
    w, b₁, b₂, b₃, b₄, b₅, hw, hblanks, ?_⟩
  rw [String.toList_ofList]
  exact hs

/-- The expression of an aggregate has its form, with nothing between the parts. -/
theorem Aggregate.aggregateForm_expression {a : Aggregate} (h : IsIdentifier a.column) :
    AggregateForm a.expression.toList (word a.function).toList a.column.toList := by
  have hnone : Blanks [] := fun c hc ↦ absurd hc List.not_mem_nil
  refine ⟨⟨[], [], [], [], [], ⟨hnone, hnone, hnone, hnone, hnone⟩, ?_⟩,
    ne_nil_of_isPlainName (isPlainName_word a.function), isAlpha_of_mem_word a.function,
    isPlainColumn_of_isIdentifier h⟩
  simp [Aggregate.expression]

/-- The name of a function is written in capital letters. -/
theorem map_toUpper_word : ∀ f : AggregateFunction,
    (word f).toList.map Char.toUpper = (word f).toList := by
  intro f
  cases f <;> decide

/-- **Conditions on groups accept the aggregates that can be selected, and nothing else.** The
expression of every aggregate over an identifier is accepted and read back as its function and its
column. Whatever is accepted spells such an aggregate and, without blank characters and with its
function in capitals, is the expression of it. Every spelling is accepted, whatever the case of the
function and the blank characters around the parts. -/
theorem acceptedForGroups_expression :
    (∀ a : Aggregate, IsIdentifier a.column → AcceptedForGroups a.expression ∧
      aggregateParts? a.expression.toList =
        some ((word a.function).toList, a.column.toList)) ∧
    (∀ s, AcceptedForGroups s → ∃ a : Aggregate, IsIdentifier a.column ∧ a.SpelledBy s ∧
      canonicalAggregate s = a.expression) ∧
    (∀ (a : Aggregate) (s : String), IsIdentifier a.column → a.SpelledBy s →
      AcceptedForGroups s ∧ ∃ w, aggregateParts? s.toList = some (w, a.column.toList) ∧
        w.map Char.toUpper = (word a.function).toList) := by
  refine ⟨fun a ha ↦ ?_, fun s hs ↦ ?_, fun a s ha hs ↦ ?_⟩
  · have hform := Aggregate.aggregateForm_expression ha
    exact ⟨acceptedForGroups_iff.2 ⟨_, _, hform, a.function, map_toUpper_word a.function⟩,
      aggregateParts?_eq_some_iff.2 hform⟩
  · obtain ⟨w, column, hform, f, hw⟩ := acceptedForGroups_iff.1 hs
    obtain ⟨a, ha, hspelled⟩ := exists_spelledBy hform hw
    exact ⟨a, ha, hspelled, hspelled.canonicalAggregate_eq ha⟩
  · obtain ⟨w, hform, hw⟩ := hs.exists_form ha
    exact ⟨acceptedForGroups_iff.2 ⟨w, _, hform, a.function, hw⟩, w,
      aggregateParts?_eq_some_iff.2 hform, hw⟩

/-- A spelling with a line feed, a tab and a no-break space between its parts. -/
def looseSpelling : String := " Sum\n(\tsales.total\u00a0) "

theorem acceptedForGroups_looseSpelling :
    (⟨.sum, "sales.total"⟩ : Aggregate).SpelledBy looseSpelling ∧
      IsIdentifier "sales.total" ∧ AcceptedForGroups looseSpelling ∧
      canonicalAggregate looseSpelling = "SUM(sales.total)" := by
  have hblanks : ∀ {b : List Char}, b.all Text.isBlank = true → Blanks b :=
    fun hb ↦ List.all_eq_true.1 hb
  have hspelled : (⟨.sum, "sales.total"⟩ : Aggregate).SpelledBy looseSpelling :=
    ⟨"Sum".toList, " ".toList, "\n".toList, "\t".toList, "\u00a0".toList, " ".toList, by decide,
      ⟨hblanks (by decide), hblanks (by decide), hblanks (by decide), hblanks (by decide),
        hblanks (by decide)⟩, by decide⟩
  have hcolumn : IsIdentifier "sales.total" :=
    .inr ⟨"sales", "total", by decide, by decide, by decide⟩
  obtain ⟨-, -, hspelling⟩ := acceptedForGroups_expression
  exact ⟨hspelled, hcolumn, (hspelling _ _ hcolumn hspelled).1, by decide⟩

end ReportQuery
