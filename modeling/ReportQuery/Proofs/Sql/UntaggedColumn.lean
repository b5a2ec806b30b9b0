import Mathlib.Data.List.Forall2
import ReportQuery.Proofs.Sql.Identifier
import ReportQuery.Proofs.Sql.RightSide

/-!
# Untagged texts that stand for columns

An untagged text on the right of a condition is written without quotes when it is a numeral and when
it has the form of a column; `notLiteral_valueOperand_iff` says that there is nothing else. The rule
on columns is not asked then. What is written is the text in lower case, and the form alone decides
which names get into a statement.

## The letters that are let in

The form takes letters of either case, and four letters count as such because a language somewhere
pairs them with a basic one. In lower case the Kelvin sign becomes a basic letter, and the other
three do not (`foreignLetters`). A column written with one of these is no identifier and would be
refused if it were tagged. The form also takes a line feed at its end, as the rule on columns does.
The main statement says that these are the only exceptions, and which letters are changed in more
than their case.
-/

namespace ReportQuery.Sql

/-! ### Letters in lower case -/

/-- The letters of column texts that are no basic ones in lower case either. -/
def foreignLetters : List Char := ['\u0130', '\u0131', '\u017f']

/-- A letter in lower case is one that can start a name, unless it is foreign. -/
theorem lowerNameChar_of_isNameLetter {c : Char} (h : isNameLetter c = true)
    (hc : c ∉ foreignLetters) : ∃ d, lowerNameChar c = [d] ∧ isNameStart d = true := by
  simp only [isNameLetter, Bool.or_eq_true, decide_eq_true_eq] at h
  rcases h with ((((h | rfl) | rfl) | rfl) | rfl) | rfl
  · have hdotted : c ≠ '\u0130' := by
      rintro rfl
      exact absurd h (by decide)
    have hkelvin : c ≠ '\u212a' := by
      rintro rfl
      exact absurd h (by decide)
    refine ⟨c.toLower, ?_, by simp [isNameStart, isAlpha_toLower h]⟩
    rw [lowerNameChar, if_neg hdotted, if_neg hkelvin]
  · exact ⟨'_', by decide, by decide⟩
  · exact absurd (by decide) hc
  · exact absurd (by decide) hc
  · exact absurd (by decide) hc
  · exact ⟨'k', by decide, by decide⟩

/-- A foreign letter leaves a character that no line of an identifier has. -/
theorem exists_mem_lowerNameChar {c : Char} (h : c ∈ foreignLetters) :
    ∃ d ∈ lowerNameChar c, isColumnPart d = false ∧ d ≠ '\n' := by
  have hforeign : ∀ c ∈ foreignLetters,
      (lowerNameChar c).any (fun d ↦ !isColumnPart d && d != '\n') = true :=
    Text.forall_mem_of_all (by decide)
  obtain ⟨d, hd, hcond⟩ := List.any_eq_true.1 (hforeign c h)
  exact ⟨d, hd, by simpa using hcond⟩

theorem opensWord_of_isNameLetter {c : Char} (h : isNameLetter c = true) : Text.OpensWord c := by
  simp only [isNameLetter, Bool.or_eq_true, decide_eq_true_eq] at h
  rcases h with ((((h | rfl) | rfl) | rfl) | rfl) | rfl
  · exact forall_isAlpha (by decide +kernel) h
  all_goals decide

/-- The lower-case form of a letter starts with a letter. -/
theorem exists_head_lowerNameChar {c : Char} (h : isNameLetter c = true) :
    ∃ d t, lowerNameChar c = d :: t ∧ isNameLetter d = true := by
  by_cases hc : c ∈ foreignLetters
  · have hforeign : ∀ c ∈ foreignLetters, ((lowerNameChar c).head?.any isNameLetter) = true :=
      Text.forall_mem_of_all (by decide)
    obtain ⟨d, hd, hletter⟩ := (Option.any_eq_true _ _).1 (hforeign c hc)
    obtain ⟨t, ht⟩ := List.head?_eq_some_iff.1 hd
    exact ⟨d, t, ht, hletter⟩
  · obtain ⟨d, hd, hstart⟩ := lowerNameChar_of_isNameLetter h hc
    refine ⟨d, [], hd, ?_⟩
    simp only [isNameStart, Bool.or_eq_true] at hstart
    simp only [isNameLetter, Bool.or_eq_true]
    exact .inl (.inl (.inl (.inl hstart)))

/-! ### Column texts are no literals -/

variable {s : String}

/-- A column text starts with a letter, and so does its lower-case form. -/
theorem exists_cons_of_isColumnText (h : isColumnText s.toList = true) :
    (∃ c t, s.toList = c :: t ∧ Text.OpensWord c) ∧
      ∃ d u, s.toList.flatMap lowerNameChar = d :: u ∧ Text.OpensWord d := by
  obtain ⟨table, name, ending, hs, ⟨hne, htable⟩, -⟩ := exists_of_isColumnText h
  obtain ⟨c, t, rfl⟩ := List.exists_cons_of_ne_nil hne
  have hc := htable c List.mem_cons_self
  obtain ⟨d, u, hd, hletter⟩ := exists_head_lowerNameChar hc
  rw [hs, List.cons_append, List.cons_append, List.flatMap_cons, hd, List.cons_append]
  exact ⟨⟨c, _, rfl, opensWord_of_isNameLetter hc⟩, d, _, rfl, opensWord_of_isNameLetter hletter⟩

theorem isNumeric_of_isColumnText (h : isColumnText s.toList = true) :
    (Value.text s).isNumeric = false := by
  obtain ⟨⟨c, t, hs, hc⟩, -⟩ := exists_cons_of_isColumnText h
  obtain ⟨u, hu⟩ := Text.trim_cons_of_not_blank hc.1 t
  rw [Value.isNumeric, hs, hu]
  exact isNumeral_of_opensWord hc u

theorem valueOperand_of_isColumnText (c : Comparison) (h : isColumnText s.toList = true) :
    valueOperand c (.text s) = String.ofList (s.toList.flatMap lowerNameChar) := by
  rw [valueOperand, if_pos h]

theorem valueOperand_of_not_isColumnText (c : Comparison) (h : ¬ isColumnText s.toList = true) :
    valueOperand c (.text s) = literalOperand c (.text s) := by
  rw [valueOperand, if_neg h]

/-- A text that is taken as a literal is between quotes or a numeral. -/
theorem isQuoted_or_numeralForm (c : Comparison) (s : String) :
    IsQuoted (literalOperand c (.text s)) ∨
      NumeralForm Text.isDecimalDigit (literalOperand c (.text s)).toList := by
  rw [literalOperand_text, Comparison.atom, atom_text]
  by_cases hnumeric : (Value.text s).isNumeric = true
  · rw [if_pos hnumeric]
    dsimp only
    split
    · exact .inl ⟨_, rfl⟩
    · refine .inr ?_
      rw [Atom.sql, String.toList_ofList]
      exact (isNumeral_iff _).1 hnumeric
  · rw [if_neg hnumeric]
    exact .inl ⟨_, rfl⟩

/-- **An untagged text is written neither between quotes nor as a numeral exactly when it has the
form of a column.** -/
theorem notLiteral_valueOperand_iff (c : Comparison) (s : String) :
    ¬ IsQuoted (valueOperand c (.text s)) ∧
      ¬ NumeralForm Text.isDecimalDigit (valueOperand c (.text s)).toList ↔
    isColumnText s.toList = true := by
  constructor
  · rintro ⟨hquoted, hnumeral⟩
    by_contra hcolumn
    rw [valueOperand_of_not_isColumnText c hcolumn] at hquoted hnumeral
    exact (isQuoted_or_numeralForm c s).elim hquoted hnumeral
  · intro hcolumn
    obtain ⟨-, d, u, hs, hd⟩ := exists_cons_of_isColumnText hcolumn
    rw [valueOperand_of_isColumnText c hcolumn]
    refine ⟨not_isQuoted (.inr (isReference_of_isColumnText hcolumn)), ?_⟩
    rw [String.toList_ofList, hs, ← isNumeral_iff, isNumeral_of_opensWord hd]
    exact Bool.false_ne_true

/-! ### Which column texts are identifiers -/

/-- Exactly two plain names with a point between them. -/
def IsQualified (s : String) : Prop :=
  ∃ table name : String, s = table ++ "." ++ name ∧
    isPlainName table.toList = true ∧ isPlainName name.toList = true

theorem isQualified_iff : IsQualified s ↔ IsIdentifier s ∧ '.' ∈ s.toList := by
  constructor
  · intro h
    obtain ⟨table, name, hs, -⟩ := id h
    exact ⟨.inr h, by simp [hs]⟩
  · rintro ⟨hplain | hqualified, hpoint⟩
    · exact absurd hpoint (not_mem_of_isPlainName hplain)
    · exact hqualified

/-- A run of letters without foreign ones is a plain name in lower case. -/
theorem isPlainName_flatMap {s : List Char} (hne : s ≠ []) (h : ∀ c ∈ s, isNameLetter c = true)
    (hforeign : ∀ c ∈ s, c ∉ foreignLetters) : isPlainName (s.flatMap lowerNameChar) = true := by
  have hstart : ∀ d ∈ s.flatMap lowerNameChar, isNameStart d = true := by
    intro d hd
    obtain ⟨c, hc, hd⟩ := List.mem_flatMap.1 hd
    obtain ⟨e, he, hstart⟩ := lowerNameChar_of_isNameLetter (h c hc) (hforeign c hc)
    rw [he, List.mem_singleton] at hd
    exact hd ▸ hstart
  obtain ⟨c, t, rfl⟩ := List.exists_cons_of_ne_nil hne
  obtain ⟨d, u, hd, -⟩ := exists_head_lowerNameChar (h c List.mem_cons_self)
  rw [List.flatMap_cons, hd, List.cons_append] at hstart ⊢
  rw [isPlainName, Bool.and_eq_true, List.all_eq_true]
  exact ⟨hstart d List.mem_cons_self,
    fun e he ↦ isNamePart_of_isNameStart (hstart e (List.mem_cons_of_mem d he))⟩

/-- Foreign letters are all that keeps a column text from being accepted. -/
theorem acceptsColumn_flatMap_iff (h : isColumnText s.toList = true) :
    acceptsColumn (String.ofList (s.toList.flatMap lowerNameChar)) = true ↔
      ∀ c ∈ s.toList, c ∉ foreignLetters := by
  constructor
  · intro haccepts c hc hforeign
    -- a foreign letter brings in a character that no name has
    obtain ⟨d, hd, hpart, hlineFeed⟩ := exists_mem_lowerNameChar hforeign
    obtain ⟨name, ending, htext, -, hname, hending⟩ := exists_of_acceptsColumn haccepts
    have hmem : d ∈ name ++ ending := by
      rw [← htext, String.toList_ofList]
      exact List.mem_flatMap.2 ⟨c, hc, hd⟩
    rcases List.mem_append.1 hmem with hmem | hmem
    · exact Bool.false_ne_true (hpart.symm.trans (hname d hmem))
    · rcases hending with rfl | rfl
      · simp at hmem
      · exact hlineFeed (List.mem_singleton.1 hmem)
  · intro hforeign
    obtain ⟨table, name, ending, hs, ⟨htable, htable'⟩, ⟨hname, hname'⟩, hending⟩ :=
      exists_of_isColumnText h
    rw [hs] at hforeign ⊢
    refine acceptsColumn_iff.2 ⟨String.ofList (table.flatMap lowerNameChar) ++ "." ++
      String.ofList (name.flatMap lowerNameChar), .inr ⟨_, _, rfl, ?_, ?_⟩, ?_⟩
    · rw [String.toList_ofList]
      exact isPlainName_flatMap htable htable' fun c hc ↦ hforeign c (by simp [hc])
    · rw [String.toList_ofList]
      exact isPlainName_flatMap hname hname' fun c hc ↦ hforeign c (by simp [hc])
    · have hpoint : lowerNameChar '.' = ['.'] := by decide
      have hlineFeed : lowerNameChar '\n' = ['\n'] := by decide
      rcases hending with rfl | rfl
      · exact .inl (String.toList_inj.1 (by simp [hpoint]))
      · exact .inr (String.toList_inj.1 (by simp [hpoint, hlineFeed]))

/-- A column text is two plain names exactly when it has no foreign letter and no line feed. -/
theorem isQualified_flatMap_iff (h : isColumnText s.toList = true) :
    IsQualified (String.ofList (s.toList.flatMap lowerNameChar)) ↔
      '\n' ∉ s.toList ∧ ∀ c ∈ s.toList, c ∉ foreignLetters := by
  have hkept : ∀ {c}, lowerNameChar c = [c] → c ∈ s.toList →
      c ∈ (String.ofList (s.toList.flatMap lowerNameChar)).toList := by
    intro c hc hmem
    rw [String.toList_ofList]
    exact List.mem_flatMap.2 ⟨c, hmem, by simp [hc]⟩
  rw [isQualified_iff]
  constructor
  · rintro ⟨hidentifier, -⟩
    have hline : IsIdentifierLine (String.ofList (s.toList.flatMap lowerNameChar)) :=
      ⟨_, hidentifier, .inl rfl⟩
    exact ⟨fun hmem ↦ (isIdentifier_iff hline).1 hidentifier (hkept (by decide) hmem),
      (acceptsColumn_flatMap_iff h).1 (acceptsColumn_iff.2 hline)⟩
  · rintro ⟨hlineFeed, hforeign⟩
    have hline := acceptsColumn_iff.1 ((acceptsColumn_flatMap_iff h).2 hforeign)
    refine ⟨(isIdentifier_iff hline).2 fun hmem ↦ ?_, hkept (by decide) (mem_of_isColumnText h).1⟩
    rw [String.toList_ofList] at hmem
    obtain ⟨c, hc, hmem⟩ := List.mem_flatMap.1 hmem
    rcases (mem_of_isColumnText h).2 c hc with hletter | rfl | rfl
    · obtain ⟨d, hd, hstart⟩ := lowerNameChar_of_isNameLetter hletter (hforeign c hc)
      rw [hd, List.mem_singleton] at hmem
      rw [← hmem] at hstart
      exact absurd hstart (by decide)
    · exact absurd hmem (by decide)
    · exact hlineFeed hc

/-! ### What changes with the case -/

/-- The text with some of its basic letters in their other case, and otherwise as it is. -/
def IsRecased (s t : String) : Prop :=
  List.Forall₂ (fun c d ↦ d = c ∨ c.isAlpha = true ∧ (d = c.toLower ∨ d = c.toUpper))
    s.toList t.toList

/-- The dotted capital I becomes two characters. -/
theorem length_lt_flatMap {s : List Char} (h : '\u0130' ∈ s) :
    s.length < (s.flatMap lowerNameChar).length := by
  have hlength : ∀ s : List Char, s.length ≤ (s.flatMap lowerNameChar).length := by
    intro s
    induction s with
    | nil => exact Nat.le_refl 0
    | cons c s ih =>
      have hpos : 0 < (lowerNameChar c).length := by
        rw [lowerNameChar]
        split
        · simp
        · split <;> simp
      rw [List.flatMap_cons, List.length_append, List.length_cons]
      omega
  obtain ⟨before, after, rfl⟩ := List.append_of_mem h
  have hbefore := hlength before
  have hafter := hlength after
  have htwo : (lowerNameChar '\u0130').length = 2 := by decide
  simp only [List.flatMap_append, List.flatMap_cons, List.length_append, List.length_cons, htwo]
  omega

/-- **A column text has only basic letters changed in case**, unless it has the dotted capital I or
the Kelvin sign. -/
theorem isRecased_flatMap_iff (s : String) :
    IsRecased s (String.ofList (s.toList.flatMap lowerNameChar)) ↔
      '\u0130' ∉ s.toList ∧ '\u212a' ∉ s.toList := by
  by_cases hdotted : '\u0130' ∈ s.toList
  · refine iff_of_false (fun h ↦ ?_) fun h ↦ h.1 hdotted
    have hlength := h.length_eq
    rw [String.toList_ofList] at hlength
    exact Nat.ne_of_lt (length_lt_flatMap hdotted) hlength
  · -- one character for each, so that the two texts are compared place by place
    have hmap : s.toList.flatMap lowerNameChar =
        s.toList.map fun c ↦ if c = '\u212a' then 'k' else c.toLower := by
      rw [List.map_eq_flatMap]
      refine List.flatMap_congr fun c hc ↦ ?_
      have hc : c ≠ '\u0130' := by
        rintro rfl
        exact hdotted hc
      rw [lowerNameChar, if_neg hc]
      split <;> rfl
    rw [IsRecased, String.toList_ofList, hmap, List.forall₂_map_right_iff, List.forall₂_same]
    constructor
    · intro h
      refine ⟨hdotted, fun hkelvin ↦ ?_⟩
      exact absurd (h _ hkelvin) (by decide)
    · rintro ⟨-, hkelvin⟩ c hc
      have hc : c ≠ '\u212a' := by
        rintro rfl
        exact hkelvin hc
      rw [if_neg hc]
      cases hletter : c.isAlpha with
      | false => exact .inl (Text.toLower_eq_self (Bool.or_eq_false_iff.1 hletter).1)
      | true => exact .inr ⟨rfl, .inl rfl⟩

/-! ### Untagged texts without quotes -/

/-- **An untagged text that is written neither between quotes nor as a numeral.** It is exactly two
plain names with a point between them if and only if the text has no line feed and no foreign
letter, and foreign letters are all that keeps the rule on columns from accepting it. It is the text
with only basic letters changed in case if and only if that has neither the dotted capital I nor the
Kelvin sign. -/
theorem untaggedColumn_isQualified_iff {c : Comparison} {s : String}
    (hquoted : ¬ IsQuoted (valueOperand c (.text s)))
    (hnumeral : ¬ NumeralForm Text.isDecimalDigit (valueOperand c (.text s)).toList) :
    (IsQualified (valueOperand c (.text s)) ↔
      '\n' ∉ s.toList ∧ ∀ x ∈ s.toList, x ∉ foreignLetters) ∧
    (acceptsColumn (valueOperand c (.text s)) = true ↔ ∀ x ∈ s.toList, x ∉ foreignLetters) ∧
    (IsRecased s (valueOperand c (.text s)) ↔ '\u0130' ∉ s.toList ∧ '\u212a' ∉ s.toList) := by
  have hcolumn := (notLiteral_valueOperand_iff c s).1 ⟨hquoted, hnumeral⟩
  rw [valueOperand_of_isColumnText c hcolumn]
  exact ⟨isQualified_flatMap_iff hcolumn, acceptsColumn_flatMap_iff hcolumn,
    isRecased_flatMap_iff s⟩

/-- A column text of both cases. -/
theorem untaggedColumn_mixedCase :
    (¬ IsQuoted (valueOperand .equal (.text "Sales.Store_ID")) ∧
      ¬ NumeralForm Text.isDecimalDigit (valueOperand .equal (.text "Sales.Store_ID")).toList) ∧
    IsQualified (valueOperand .equal (.text "Sales.Store_ID")) ∧
      acceptsColumn (valueOperand .equal (.text "Sales.Store_ID")) = true ∧
      IsRecased "Sales.Store_ID" (valueOperand .equal (.text "Sales.Store_ID")) := by
  have hliteral := (notLiteral_valueOperand_iff .equal "Sales.Store_ID").2 (by decide)
  obtain ⟨hqualified, haccepts, hrecased⟩ :=
    untaggedColumn_isQualified_iff hliteral.1 hliteral.2
  have hletters : ∀ x ∈ "Sales.Store_ID".toList, x ∉ foreignLetters :=
    Text.forall_mem_of_all (by decide)
  exact ⟨hliteral, hqualified.2 ⟨by decide, hletters⟩, haccepts.2 hletters,
    hrecased.2 (by decide)⟩

/-- **Foreign letters get into a statement.** A text with the dotless i stands without quotes, and
is no two plain names. -/
theorem untaggedColumn_dotlessI :
    valueOperand .greater (.text "stores.c\u0131ty") = "stores.c\u0131ty" ∧
      (¬ IsQuoted (valueOperand .greater (.text "stores.c\u0131ty")) ∧
        ¬ NumeralForm Text.isDecimalDigit
          (valueOperand .greater (.text "stores.c\u0131ty")).toList) ∧
      ¬ IsQualified (valueOperand .greater (.text "stores.c\u0131ty")) ∧
      acceptsColumn (valueOperand .greater (.text "stores.c\u0131ty")) = false := by
  have hcolumn : isColumnText "stores.c\u0131ty".toList = true := by decide
  have hvalue : valueOperand .greater (.text "stores.c\u0131ty") = "stores.c\u0131ty" := by
    rw [valueOperand_of_isColumnText _ hcolumn]
    decide
  refine ⟨hvalue, (notLiteral_valueOperand_iff .greater _).2 hcolumn, ?_, ?_⟩
  · rw [valueOperand_of_isColumnText _ hcolumn, isQualified_flatMap_iff hcolumn]
    exact fun h ↦ h.2 '\u0131' (by decide) (by decide)
  · rw [hvalue]
    decide

end ReportQuery.Sql
