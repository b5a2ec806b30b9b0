import ReportQuery.Proofs.Sql.RightSide

/-!
# Numbers without quotes

A number is written without quotes, and so is a text that reads as one. What is written then is a
numeral and denotes the number that the value is (`asLiteral_denotes`).

A text without quotes is written as it is, trimmed, and its digits may be of any script. A numeral
of the database has basic digits only, so a text with other digits is written without quotes and is
no numeral there (`asLiteral_indicText`). The main statement says that nothing else goes wrong.

What a text denotes is said by the grammar of numerals (`Denotes`) and for the value by its own
meaning as a number; the two are proved equal where the value is a number. For a text there is no
number to compare with, and the statement says that the written numeral denotes what the text
denotes.
-/

namespace ReportQuery

namespace Sql

/-- Every digit of the text is one of the ten basic ones. -/
def HasBasicDigits (s : List Char) : Prop :=
  ∀ c ∈ s, Text.isDecimalDigit c = true → c.isDigit = true

/-- A numeral of basic digits is a numeral whose digits are basic. -/
theorem denotes_isDigit_iff {s : List Char} {d : Decimal} (h : Denotes Text.isDecimalDigit s d) :
    Denotes Char.isDigit s d ↔ HasBasicDigits s := by
  constructor
  · intro hbasic c hc hdigit
    refine (hbasic.form.digit_or_mark hc).resolve_right fun hmark ↦ ?_
    have hmarks : ∀ c ∈ numeralMarks, Text.isDecimalDigit c = false :=
      Text.forall_mem_of_all (by decide)
    simp [hmarks c hmark] at hdigit
  · exact fun hbasic ↦ h.imp hbasic

end Sql

open Sql

namespace Value

/-- The value is a number of some kind, or a text. -/
def isNumberOrText : Value → Bool
  | .int _ | .float _ | .decimal _ | .text _ => true
  | _ => false

/-- A number or a text is written without quotes exactly when it counts as numeric. -/
theorem asLiteral_of_isNumberOrText {v : Value} (hv : v.isNumberOrText = true) :
    v.asLiteral = if v.isNumeric then String.ofList (Text.trim v.display.toList)
      else quoteText v.quotedContent := by
  cases v <;> first | rfl | cases hv

/-- What is written without quotes is written so because it is numeric. -/
theorem isQuoted_asLiteral_iff {v : Value} (hv : v.isNumberOrText = true) :
    IsQuoted v.asLiteral ↔ v.isNumeric = false := by
  rw [asLiteral_of_isNumberOrText hv]
  split
  · next h =>
    obtain ⟨d, -, hd, -⟩ := exists_denotes_of_isNumeric h
    have hbare : NumeralForm Text.isDecimalDigit
        (String.ofList (Text.trim v.display.toList)).toList := by
      rw [String.toList_ofList]
      exact hd.form
    simpa only [h, Bool.true_eq_false, iff_false] using not_isQuoted (.inl (.inr hbare))
  · next h => exact ⟨fun _ ↦ by simpa using h, fun _ ↦ ⟨_, rfl⟩⟩

/-- **A number without quotes is a numeral that denotes it.** Of the numbers and texts, what is not
between quotes denotes the number that the value is; it is a numeral with basic digits exactly when
it has no others, which holds of everything that is no text. And a text is without quotes exactly
when it is, trimmed, a numeral with digits of any script; otherwise the text itself is between
quotes. -/
theorem asLiteral_denotes {v : Value} (hv : v.isNumberOrText = true) :
    (¬ IsQuoted v.asLiteral → ∃ d, v.IsNumber d ∧
      Denotes Text.isDecimalDigit v.asLiteral.toList d ∧
      (Denotes Char.isDigit v.asLiteral.toList d ↔ HasBasicDigits v.asLiteral.toList) ∧
      ((∀ s, v ≠ .text s) → HasBasicDigits v.asLiteral.toList)) ∧
    ∀ s, v = .text s →
      (¬ IsQuoted v.asLiteral ↔ NumeralForm Text.isDecimalDigit (Text.trim s.toList)) ∧
      (IsQuoted v.asLiteral → v.asLiteral = quoteText s) := by
  constructor
  · intro hquoted
    have hnumeric : v.isNumeric = true := by
      simpa [isQuoted_asLiteral_iff hv] using hquoted
    obtain ⟨d, hnumber, hd, hbasic⟩ := exists_denotes_of_isNumeric hnumeric
    rw [asLiteral_of_isNumberOrText hv, if_pos hnumeric, String.toList_ofList]
    exact ⟨d, hnumber, hd, denotes_isDigit_iff hd, fun hs ↦ (denotes_isDigit_iff hd).1 (hbasic hs)⟩
  · rintro s rfl
    constructor
    · rw [isQuoted_asLiteral_iff rfl, Bool.not_eq_false, ← isNumeral_iff]
      rfl
    · intro hquoted
      rw [asLiteral_of_isNumberOrText rfl, (isQuoted_asLiteral_iff rfl).1 hquoted]
      rfl

/-- A numeral with a sign, a fraction and an exponent, between blank characters. -/
theorem asLiteral_paddedText :
    (Value.text " -1.50e3\n").isNumberOrText = true ∧
      ∃ d, (Value.text " -1.50e3\n").IsNumber d ∧ Denotes Char.isDigit "-1.50e3".toList d := by
  obtain ⟨hdenotes, htext⟩ := asLiteral_denotes (v := .text " -1.50e3\n") rfl
  have hliteral : (Value.text " -1.50e3\n").asLiteral = "-1.50e3" := by decide
  have hbare : ¬ IsQuoted (Value.text " -1.50e3\n").asLiteral :=
    (htext _ rfl).1.2 ((isNumeral_iff _).1 (by decide))
  obtain ⟨d, hnumber, -, hbasic, -⟩ := hdenotes hbare
  rw [hliteral] at hbasic
  exact ⟨rfl, d, hnumber, hbasic.2 (Text.forall_mem_of_all (by decide))⟩

/-- **A text of another script's digits is written without quotes**, and has no basic digit. -/
theorem asLiteral_indicText :
    (Value.text "\u0663").asLiteral = "\u0663" ∧ ¬ IsQuoted (Value.text "\u0663").asLiteral ∧
      ¬ NumeralForm Char.isDigit (Value.text "\u0663").asLiteral.toList := by
  have hliteral : (Value.text "\u0663").asLiteral = "\u0663" := by decide
  refine ⟨hliteral, ?_, ?_⟩
  · rw [isQuoted_asLiteral_iff rfl]
    decide
  · rw [hliteral]
    intro h
    rcases h.digit_or_mark (c := '\u0663') (by decide) with hc | hc
    · exact absurd hc (by decide)
    · exact absurd hc (by decide)

end Value

end ReportQuery
