import ReportQuery.Proofs.Sql.NameText
import ReportQuery.Proofs.Sql.NumberDisplay
import ReportQuery.Proofs.Text.Uppercase
import ReportQuery.Sql.Clause

/-!
# The right sides of conditions

What stands on the right of a condition, as data: a text without quotes, a text between quotes, or
a list of these. `Filter.operand` says which of them a filter means, in terms of its comparison and
its value, and `right_ofFilter` that the built condition is written from it; `asLiteral_toValue`
says the same of a scalar alone, on the right of a condition on groups.

## What may stand without quotes

Null, the truth values and numerals (`IsBareLiteral`), and names (`IsReference`). A text without
quotes in a statement is one of these, whatever the request holds, as long as its tagged columns
are accepted (`wellFormed_operand`).

## Capital letters

A text that is compared for equality gets a capital letter before it is written, and the written
form is decided afterwards. That this cannot turn a text into a numeral is `isNumeric_capitalize`,
which rests on the upper-case mapping: a changed character starts a word.
-/

namespace ReportQuery

namespace Sql

/-! ### Atoms and operands -/

/-- A right side without parts: a text without quotes, or a text between quotes. -/
inductive Atom where
  | bare (text : String)
  | quoted (text : String)
deriving Repr, DecidableEq

/-- The written atom. -/
def Atom.sql : Atom → String
  | .bare s => s
  | .quoted s => quoteText s

/-- A right side: an atom, or a list of atoms between parentheses. -/
inductive Operand where
  | atom (a : Atom)
  | list (items : List Atom)
deriving Repr, DecidableEq

/-- The written operand. -/
def Operand.sql : Operand → String
  | .atom a => a.sql
  | .list items => "(" ++ ", ".intercalate (items.map Atom.sql) ++ ")"

/-- The words for null and the truth values. -/
def literalWords : List String := ["NULL", "TRUE", "FALSE"]

/-- A literal without quotes: one of the words, or a numeral. -/
def IsBareLiteral (s : String) : Prop :=
  s ∈ literalWords ∨ NumeralForm Text.isDecimalDigit s.toList

/-- A literal: what is without quotes is a word or a numeral. -/
def Atom.IsLiteral : Atom → Prop
  | .bare s => IsBareLiteral s
  | .quoted _ => True

/-- What is without quotes is a word, a numeral or a name. -/
def Atom.WellFormed : Atom → Prop
  | .bare s => IsBareLiteral s ∨ IsReference s
  | .quoted _ => True

/-- An atom is well-formed, and the elements of a list are literals. -/
def Operand.WellFormed : Operand → Prop
  | .atom a => a.WellFormed
  | .list items => ∀ a ∈ items, a.IsLiteral

theorem Atom.IsLiteral.wellFormed {a : Atom} (h : a.IsLiteral) : a.WellFormed := by
  cases a with
  | bare s => exact .inl h
  | quoted s => trivial

end Sql

open Sql

/-! ### Scalars as literals -/

/-- The literal that a scalar is: null and the truth values are words, numbers and texts that read
as numerals are without quotes and trimmed, every other text is between quotes. -/
def Scalar.atom (v : Scalar) : Atom :=
  match v with
  | .null => .bare "NULL"
  | .bool b => .bare (if b then "TRUE" else "FALSE")
  | v =>
    if v.toValue.isNumeric then .bare (String.ofList (Text.trim v.display.toList))
    else .quoted v.display

/-- A scalar is written as its atom. -/
theorem asLiteral_toValue (v : Scalar) : v.toValue.asLiteral = v.atom.sql := by
  cases v with
  | null => rfl
  | bool b => rfl
  | int n => rfl
  | float x =>
    show (if (Value.float x).isNumeric then _ else _) =
      Atom.sql (if (Value.float x).isNumeric then _ else _)
    split <;> rfl
  | text s =>
    show (if (Value.text s).isNumeric then _ else _) =
      Atom.sql (if (Value.text s).isNumeric then _ else _)
    split <;> rfl

theorem asLiteral_text (s : String) : (Value.text s).asLiteral = (Scalar.text s).atom.sql :=
  asLiteral_toValue (.text s)

/-- The display of a number is a numeral, and a text counts as numeric only if it is one. -/
theorem numeralForm_of_isNumeric {v : Scalar} (h : v.toValue.isNumeric = true) :
    NumeralForm Text.isDecimalDigit (Text.trim v.display.toList) := by
  obtain ⟨d, -, hd, -⟩ := Value.exists_denotes_of_isNumeric h
  exact hd.form

/-- The atom of a scalar is a literal. -/
theorem isLiteral_atom (v : Scalar) : v.atom.IsLiteral := by
  have hnumeric : ∀ v : Scalar, (if v.toValue.isNumeric then
      Atom.bare (String.ofList (Text.trim v.display.toList)) else .quoted v.display).IsLiteral := by
    intro v
    split
    · next h => exact .inr (by simpa using numeralForm_of_isNumeric h)
    · trivial
  cases v with
  | null => exact .inl (by decide)
  | bool b => exact .inl (by cases b <;> decide)
  | int n => exact hnumeric (.int n)
  | float x => exact hnumeric (.float x)
  | text s => exact hnumeric (.text s)

/-! ### Capital letters -/

/-- A text that starts a word is no numeral. -/
theorem isNumeral_of_opensWord {c : Char} (h : Text.OpensWord c) (s : List Char) :
    isNumeral (c :: s) = false := by
  obtain ⟨-, hdigit, hsigns⟩ := h
  rw [Bool.eq_false_iff, ne_eq, isNumeral_iff]
  rintro ⟨sign, body, hsign, hbody, hs⟩
  obtain ⟨d, t, rfl, hd⟩ := hbody.head
  cases hsign with
  | none =>
    cases hs
    rcases hd with hd | rfl
    · simp [hdigit] at hd
    · exact hsigns (by decide)
  | plus =>
    cases hs
    exact hsigns (by decide)
  | minus =>
    cases hs
    exact hsigns (by decide)

/-- A capital letter does not turn a text into a numeral. -/
theorem isNumeric_capitalize {s : List Char}
    (h : (Value.text (String.ofList s)).isNumeric = false) :
    (Value.text (String.ofList (capitalize s))).isNumeric = false := by
  cases s with
  | nil => exact h
  | cons c s =>
    rcases Text.upperChar_eq_self_or c with hself | ⟨d, t, hupper, hopens⟩
    · rwa [capitalize, hself]
    · obtain ⟨u, hu⟩ := Text.trim_cons_of_not_blank hopens.1 (t ++ s)
      rw [capitalize, hupper, List.cons_append]
      simp only [Value.isNumeric, String.toList_ofList, hu]
      exact isNumeral_of_opensWord hopens u

/-! ### What a filter means -/

/-- The display of a scalar, with a capital letter in front when it is a text. -/
def Scalar.capitalized : Scalar → String
  | .text s => String.ofList (capitalize s.toList)
  | v => v.display

/-- The text that a scalar is compared with: as a pattern it asks for what contains it, and a text
that has to be equal has a capital letter in front. -/
def Scalar.intendedText (c : Comparison) (v : Scalar) : String :=
  if c.isPatternMatch then String.ofList (containsPattern v.display.toList)
  else if c = .equal then v.capitalized
  else v.display

/-- A scalar under a comparison. A pattern is between quotes whatever its value is, unless that is
null; otherwise only what is between quotes anyway has a text of its own. -/
def Comparison.atom (c : Comparison) (v : Scalar) : Atom :=
  match v.atom with
  | .bare s => if c.isPatternMatch ∧ v ≠ .null then .quoted (v.intendedText c) else .bare s
  | .quoted _ => .quoted (v.intendedText c)

/-- What a filter value means under a comparison. -/
def FilterValue.operand (c : Comparison) : FilterValue → Operand
  | .column table name => .atom (.bare (table ++ "." ++ name))
  | .literal v => .atom (c.atom v)
  | .list items => .list (items.map Scalar.atom)
  | .scalar (.text s) =>
    if isColumnText s.toList then .atom (.bare (String.ofList (s.toList.flatMap lowerNameChar)))
    else .atom (c.atom (.text s))
  | .scalar v => .atom (c.atom v)

/-- The right side that a filter means. Membership is tested in a list. -/
def Filter.operand (f : Filter) : Operand :=
  if f.comparison = .among then (membershipList f.value).operand .among
  else f.value.operand f.comparison

/-- A text to be matched is meant as its normal pattern. -/
theorem intendedText_of_isPatternMatch {c : Comparison} (hc : c.isPatternMatch = true)
    (v : Scalar) : v.intendedText c = String.ofList (containsPattern v.display.toList) := by
  rw [Scalar.intendedText, if_pos hc]

theorem intendedText_of_not_text {c : Comparison} (hc : c.isPatternMatch = false) {v : Scalar}
    (hv : ∀ s, v ≠ .text s) : v.intendedText c = v.display := by
  rw [Scalar.intendedText, if_neg (by simp [hc])]
  split
  · cases v with
    | text s => exact absurd rfl (hv s)
    | _ => rfl
  · rfl

/-- A text is bare exactly when it counts as numeric, and trimmed then. -/
theorem atom_text (s : String) : (Scalar.text s).atom =
    if (Value.text s).isNumeric then .bare (String.ofList (Text.trim s.toList)) else .quoted s :=
  rfl

theorem atom_float (x : Binary64) : (Scalar.float x).atom =
    if x.isFinite then .bare (String.ofList (Text.trim (Value.floatText x).toList))
    else .quoted (Value.floatText x) :=
  rfl

/-- Between quotes stands the text of the scalar. -/
theorem display_of_atom_eq_quoted {v : Scalar} {t : String} (h : v.atom = .quoted t) :
    v.display = t := by
  cases v with
  | null => cases h
  | bool b => cases h
  | int n => cases h
  | float x =>
    rw [atom_float] at h
    split at h <;> cases h
    rfl
  | text s =>
    rw [atom_text] at h
    split at h <;> cases h
    rfl

theorem atom_of_isPatternMatch {c : Comparison} (hc : c.isPatternMatch = true) {v : Scalar}
    (hv : v ≠ .null) : c.atom v = .quoted (v.intendedText c) := by
  rw [Comparison.atom]
  split
  · rw [if_pos ⟨hc, hv⟩]
  · rfl

/-- Without a pattern, an atom between quotes may change its text and nothing else changes. -/
theorem atom_of_not_isPatternMatch {c : Comparison} (hc : c.isPatternMatch = false) {v : Scalar}
    (hv : ∀ t, v.atom = .quoted t → v.intendedText c = t) : c.atom v = v.atom := by
  rw [Comparison.atom]
  split
  · next s hs => rw [if_neg (by simp [hc]), hs]
  · next t ht => rw [hv t ht, ht]

/-- A scalar that is no text is written as a pattern or as it is. -/
theorem literalOperand_of_not_text {c : Comparison} {v : Scalar} (hnull : v ≠ .null)
    (htext : ∀ s, v ≠ .text s)
    (h : literalOperand c v.toValue = if c.isPatternMatch then
      quoteText (String.ofList (containsPattern v.display.toList)) else v.toValue.asLiteral) :
    literalOperand c v.toValue = (c.atom v).sql := by
  rw [h]
  split
  · next hc =>
    rw [atom_of_isPatternMatch hc hnull, intendedText_of_isPatternMatch hc]
    rfl
  · next hc =>
    have hc : c.isPatternMatch = false := by simpa using hc
    rw [asLiteral_toValue, atom_of_not_isPatternMatch hc]
    intro t ht
    rw [intendedText_of_not_text hc htext, display_of_atom_eq_quoted ht]

theorem literalOperand_text (c : Comparison) (s : String) :
    literalOperand c (.text s) = (c.atom (.text s)).sql := by
  rw [literalOperand]
  split
  · next hc =>
    rw [atom_of_isPatternMatch hc (by simp), intendedText_of_isPatternMatch hc]
    rfl
  · next hc =>
    have hc : c.isPatternMatch = false := by simpa using hc
    split
    · next hcapital =>
      -- the text is no numeral, so it is between quotes, and stays so with its capital letter
      rw [Bool.and_eq_true, decide_eq_true_eq, Bool.not_eq_true'] at hcapital
      obtain ⟨hequal, hnumeric⟩ := hcapital
      have hquoted : (Value.text (String.ofList (capitalize s.toList))).isNumeric = false :=
        isNumeric_capitalize (by rwa [String.ofList_toList])
      have hatom : (Scalar.text s).atom = .quoted s := by
        rw [atom_text, if_neg (by simp [hnumeric])]
      have hcapital := asLiteral_text (String.ofList (capitalize s.toList))
      rw [atom_text, if_neg (by simp [hquoted])] at hcapital
      rw [Comparison.atom, hatom, Scalar.intendedText, if_neg (by simp [hc]), if_pos hequal]
      exact hcapital
    · next hplain =>
      -- nothing is done to the text: it is compared otherwise, or it is a numeral
      rw [asLiteral_text, atom_of_not_isPatternMatch hc]
      intro t ht
      have hnumeric : (Value.text s).isNumeric = false := by
        rw [atom_text] at ht
        split at ht
        · cases ht
        · next h => simpa using h
      have hequal : c ≠ .equal := by
        rintro rfl
        simp [hnumeric] at hplain
      rw [Scalar.intendedText, if_neg (by simp [hc]), if_neg hequal]
      exact display_of_atom_eq_quoted ht

/-- A scalar stands in a condition as the atom of its comparison. -/
theorem literalOperand_toValue (c : Comparison) (v : Scalar) :
    literalOperand c v.toValue = (c.atom v).sql := by
  cases v with
  | null => cases c <;> rfl
  | bool b => exact literalOperand_of_not_text (by simp) (by simp) rfl
  | int n => exact literalOperand_of_not_text (by simp) (by simp) rfl
  | float x => exact literalOperand_of_not_text (by simp) (by simp) rfl
  | text s => exact literalOperand_text c s

/-! ### Built conditions -/

/-- A list stands in a condition as the list of its atoms. -/
theorem literalList_map_toValue (items : List Scalar) :
    literalList (items.map Scalar.toValue) = (Operand.list (items.map Scalar.atom)).sql := by
  rw [literalList, Operand.sql, List.map_map, List.map_map]
  congr 3
  exact List.map_congr_left fun v _ ↦ asLiteral_toValue v

/-- **The right side of a condition is the operand of its value.** -/
theorem valueOperand_toValue (c : Comparison) (v : FilterValue) :
    valueOperand c v.toValue = (v.operand c).sql := by
  cases v with
  | column table name => rfl
  | literal v => exact literalOperand_toValue c v
  | list items => exact literalList_map_toValue items
  | scalar v =>
    cases v with
    | text s =>
      show (if isColumnText s.toList then _ else literalOperand c (.text s)) = _
      rw [FilterValue.operand]
      split
      · rfl
      · exact literalOperand_text c s
    | null => exact literalOperand_toValue c .null
    | bool b => exact literalOperand_toValue c (.bool b)
    | int n => exact literalOperand_toValue c (.int n)
    | float x => exact literalOperand_toValue c (.float x)

/-- **The right side of a built condition is the operand that its filter means.** -/
theorem right_ofFilter (dateFormat : String) (f : Filter) :
    (Condition.ofFilter dateFormat f).right = f.operand.sql := by
  rw [Condition.ofFilter, Filter.operand]
  dsimp only
  split
  · next hc => rw [hc, valueOperand_toValue]
  · rw [valueOperand_toValue]

/-! ### Operands are well-formed -/

theorem isLiteral_comparison_atom (c : Comparison) (v : Scalar) : (c.atom v).IsLiteral := by
  have hv := isLiteral_atom v
  rw [Comparison.atom]
  split
  · next s hs =>
    split
    · trivial
    · rwa [hs] at hv
  · trivial

theorem wellFormed_list (items : List Scalar) :
    (Operand.list (items.map Scalar.atom)).WellFormed := by
  intro a ha
  obtain ⟨v, -, rfl⟩ := List.mem_map.1 ha
  exact isLiteral_atom v

/-- What a filter value means is well-formed, if a tagged column is acceptable. -/
theorem wellFormed_value_operand (c : Comparison) {v : FilterValue}
    (hv : ∀ table name, v = .column table name → acceptsColumn (table ++ "." ++ name) = true) :
    (v.operand c).WellFormed := by
  have hscalar : ∀ v : Scalar, (Operand.atom (c.atom v)).WellFormed :=
    fun v ↦ (isLiteral_comparison_atom c v).wellFormed
  cases v with
  | column table name => exact .inr (isReference_of_acceptsColumn (hv table name rfl))
  | literal v => exact hscalar v
  | list items => exact wellFormed_list items
  | scalar v =>
    cases v with
    | text s =>
      rw [FilterValue.operand]
      split
      · next h => exact .inr (isReference_of_isColumnText h)
      · exact hscalar (.text s)
    | null => exact hscalar .null
    | bool b => exact hscalar (.bool b)
    | int n => exact hscalar (.int n)
    | float x => exact hscalar (.float x)

/-- The operand of a filter is well formed when its tagged column is accepted. -/
theorem wellFormed_operand {f : Filter}
    (hf : ∀ table name, f.value = .column table name →
      acceptsColumn (table ++ "." ++ name) = true) : f.operand.WellFormed := by
  rw [Filter.operand]
  split
  · refine wellFormed_value_operand .among fun table name h ↦ hf table name ?_
    cases hvalue : f.value with
    | column table' name' =>
      rw [hvalue] at h
      exact h
    | literal v => rw [hvalue] at h; cases h
    | list items => rw [hvalue] at h; cases h
    | scalar v => rw [hvalue] at h; cases h
  · exact wellFormed_value_operand f.comparison hf

/-! ### Characters without quotes -/

/-- A character of a word, of a numeral or of a name. -/
def isBareChar (c : Char) : Bool :=
  isReferenceChar c || Text.isDecimalDigit c || c = '+' || c = '-'

/-- What is without quotes is not empty and consists of such characters. -/
theorem bareChar_of_wellFormed {s : String} (h : IsBareLiteral s ∨ IsReference s) :
    s.toList ≠ [] ∧ ∀ c ∈ s.toList, isBareChar c = true := by
  have hmarks : ∀ c ∈ numeralMarks, isBareChar c = true := Text.forall_mem_of_all (by decide)
  have hwords : ∀ s ∈ literalWords, s.toList ≠ [] ∧ s.toList.all isBareChar = true := by decide
  rcases h with (hword | hnumeral) | ⟨hne, hchars⟩
  · exact ⟨(hwords s hword).1, List.all_eq_true.1 (hwords s hword).2⟩
  · refine ⟨hnumeral.ne_nil, fun c hc ↦ ?_⟩
    rcases hnumeral.digit_or_mark hc with hdigit | hmark
    · simp [isBareChar, hdigit]
    · exact hmarks c hmark
  · exact ⟨hne, fun c hc ↦ by simp [isBareChar, hchars c hc]⟩

/-! ### What is between quotes -/

namespace Sql

/-- The text is between quotes. -/
def IsQuoted (t : String) : Prop :=
  ∃ u, t = quoteText u

/-- A quote is no character of what is without quotes. -/
theorem not_isQuoted {t : String} (h : IsBareLiteral t ∨ IsReference t) : ¬ IsQuoted t := by
  rintro ⟨u, rfl⟩
  exact absurd ((bareChar_of_wellFormed h).2 '\'' (by simp [quoteText])) (by decide)

theorem isQuoted_or_isBareLiteral {a : Atom} (h : a.IsLiteral) :
    IsQuoted a.sql ∨ IsBareLiteral a.sql := by
  cases a with
  | bare s => exact .inr h
  | quoted s => exact .inl ⟨s, rfl⟩

end Sql

end ReportQuery
