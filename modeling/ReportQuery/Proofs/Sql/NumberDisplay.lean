import ReportQuery.Proofs.Sql.NumeralValue

/-!
# The displays of numbers

An integer is displayed as a numeral of itself, and so is a decimal number, to the last zero
(`denotes_display_int`, `denotes_text`). A floating-point number is displayed as a numeral that
reads back to it (`denotes_floatText`): the layout moves the point and adds zeros, which leaves the
value of the shortest numeral as it is. The digits of all three are the basic ones.

Together with texts, which are displayed as they are, this covers what counts as numeric: a numeric
value is displayed as a numeral of the number that it is (`Value.exists_denotes_of_isNumeric`).

## The four layouts

A floating-point number is laid out in one of four ways, by the place of its point: behind the
digits and the zeros that fill up, inside the digits, in front of them with zeros between, or behind
the first digit with an exponent. Each layout is a numeral of the same value, and
`exists_unsignedDenotes_layout` goes through them. That the digits are the shortest plays no part in
it.
-/

namespace ReportQuery

namespace Sql

/-! ### Where the point stands -/

section

variable {digit : Char → Bool} {s ending : List Char} {n : ℕ} {e : ℤ}

/-- The point in the middle of digits, or at one of their ends. -/
theorem UnsignedDenotes.point_inside (h : DigitsDenote digit s n)
    (hending : EndingDenotes digit ending e) (k : ℕ) :
    UnsignedDenotes digit (s.take k ++ '.' :: s.drop k ++ ending) ⟨n, e - (s.length - k : ℕ)⟩ := by
  rw [← List.length_drop]
  exact .point (by rwa [List.take_append_drop]) hending

/-- The point in front of zeros and digits. -/
theorem UnsignedDenotes.point_in_front (h : DigitsDenote Char.isDigit s n)
    (hending : EndingDenotes Char.isDigit ending e) (k : ℕ) :
    UnsignedDenotes Char.isDigit ('0' :: '.' :: (List.replicate k '0' ++ s) ++ ending)
      ⟨n, e - (k + s.length : ℕ)⟩ := by
  have hlength : (List.replicate k '0' ++ s).length = k + s.length := by
    rw [List.length_append, List.length_replicate]
  have hdigits : DigitsDenote Char.isDigit (['0'] ++ (List.replicate k '0' ++ s)) n :=
    h.zeros_append (k + 1)
  rw [← hlength]
  exact .point hdigits hending

/-- A sign and digits behind the letter of an exponent. -/
theorem endingDenotes_of_natAbs {mark : Char} (hmark : mark = 'e' ∨ mark = 'E') {sign : String}
    (hsign : sign = if e < 0 then "-" else "+") (h : DigitsDenote digit s e.natAbs) :
    EndingDenotes digit (mark :: sign.toList ++ s) e := by
  subst hsign
  split
  · next he =>
    have hnumber : signedNumber ['-'] e.natAbs = e := by
      rw [signedNumber, if_pos rfl]
      omega
    have hexponent := EndingDenotes.exponent hmark .minus h
    rwa [hnumber] at hexponent
  · next he =>
    have hnumber : signedNumber ['+'] e.natAbs = e := by
      rw [signedNumber, if_neg (by decide)]
      omega
    have hexponent := EndingDenotes.exponent hmark .plus h
    rwa [hnumber] at hexponent

/-- A minus sign or nothing in front of an unsigned numeral is the sign of the number. -/
theorem UnsignedDenotes.signed {text : String} {m : Numeral}
    (h : UnsignedDenotes digit text.toList m) (negative : Bool) :
    Denotes digit ((if negative then "-" else "") ++ text).toList
      (.finite negative m.digits m.exponent) := by
  rw [String.toList_append]
  cases negative with
  | false => exact ⟨[], text.toList, m, .none, h, rfl, rfl⟩
  | true => exact ⟨['-'], text.toList, m, .minus, h, rfl, rfl⟩

end

/-! ### The displays of numbers -/

theorem unsignedDenotes_toString (n : ℕ) :
    UnsignedDenotes Char.isDigit (toString n).toList ⟨n, 0⟩ := by
  simpa using UnsignedDenotes.whole (digitsDenote_toString n) .none

/-- An integer is displayed as a numeral for itself. -/
theorem denotes_display_int (n : ℤ) :
    Denotes Char.isDigit (Value.int n).display.toList (.finite (n < 0) n.natAbs 0) := by
  show Denotes Char.isDigit (toString n).toList _
  cases n with
  | ofNat n => exact (unsignedDenotes_toString n).signed false
  | negSucc n =>
    rw [decide_eq_true (Int.negSucc_lt_zero n)]
    exact (unsignedDenotes_toString (n + 1)).signed true

/-- Digits with the point at a place that is not behind their end, as decimal numbers lay them
out. -/
theorem unsignedDenotes_point_at {s ending : List Char} {n : ℕ} {e point : ℤ}
    (h : DigitsDenote Char.isDigit s n) (hending : EndingDenotes Char.isDigit ending e)
    (hpoint : point ≤ s.length) :
    UnsignedDenotes Char.isDigit
      ((if point ≤ 0 then '0' :: '.' :: List.replicate (-point).toNat '0' ++ s
        else if s.length ≤ point then s ++ List.replicate (point - s.length).toNat '0'
        else s.take point.toNat ++ '.' :: s.drop point.toNat) ++ ending)
      ⟨n, e + point - s.length⟩ := by
  split
  · have hexponent : e + point - s.length = e - ((-point).toNat + s.length : ℕ) := by omega
    rw [hexponent]
    exact .point_in_front h hending (-point).toNat
  · split
    · have hexponent : e + point - s.length = e := by omega
      have hzeros : (point - s.length).toNat = 0 := by omega
      rw [hexponent, hzeros, List.replicate_zero, List.append_nil]
      exact .whole h hending
    · have hexponent : e + point - s.length = e - (s.length - point.toNat : ℕ) := by omega
      rw [hexponent]
      exact .point_inside h hending point.toNat

/-- A decimal number keeps its digits and its exponent, wherever the point is put. -/
theorem unsignedDenotes_magnitudeText (c : ℕ) (e : ℤ) :
    UnsignedDenotes Char.isDigit (Decimal.magnitudeText c e).toList ⟨c, e⟩ := by
  have hdigits := digitsDenote_toString c
  have hlength : 0 < (toString c).toList.length := List.length_pos_iff.2 hdigits.ne_nil
  rw [Decimal.magnitudeText]
  generalize (toString c).toList = digits at hdigits hlength
  dsimp only
  generalize hplace : (if e ≤ 0 ∧ -6 < e + (digits.length : ℤ) then e + (digits.length : ℤ)
    else 1) = point
  have hpoint : point ≤ digits.length := by
    rw [← hplace]
    split <;> omega
  have hending : EndingDenotes Char.isDigit (if e + (digits.length : ℤ) = point then "" else
      "E" ++ (if e + (digits.length : ℤ) < point then "-" else "+") ++
        toString (e + (digits.length : ℤ) - point).natAbs).toList
      (e + digits.length - point) := by
    split
    · next h =>
      rw [h, sub_self]
      exact .none
    · rw [String.toList_append, String.toList_append]
      refine endingDenotes_of_natAbs (.inr rfl) ?_ (digitsDenote_toString _)
      simp only [sub_neg]
  have htext := unsignedDenotes_point_at hdigits hending hpoint
  have hexponent : e + digits.length - point + point - digits.length = e := by omega
  rw [hexponent] at htext
  rwa [String.toList_append, String.toList_ofList]

/-- **A finite decimal number is written as a numeral of itself.** -/
theorem denotes_text (negative : Bool) (c : ℕ) (e : ℤ) :
    Denotes Char.isDigit (Decimal.finite negative c e).text.toList (.finite negative c e) :=
  (unsignedDenotes_magnitudeText c e).signed negative

/-- Zeros behind the digits and one more behind the point leave the value as it is. -/
theorem exists_unsignedDenotes_zeros {s : List Char} {n : ℕ} (h : DigitsDenote Char.isDigit s n)
    {e : ℤ} (he : 0 ≤ e) : ∃ m : Numeral, m.value = (⟨n, e⟩ : Numeral).value ∧
      UnsignedDenotes Char.isDigit (s ++ List.replicate e.toNat '0' ++ ['.', '0']) m := by
  refine ⟨⟨10 ^ 1 * (10 ^ e.toNat * n), 0 - (1 : ℕ)⟩, ?_, ?_⟩
  · have hexponent : e - e.toNat = 0 := by omega
    rw [Numeral.value_zeros, ← hexponent, Numeral.value_zeros]
  · have hzeros := UnsignedDenotes.point ((h.append_zeros e.toNat).append_zeros 1) .none
    rwa [List.append_nil] at hzeros

/-- Digits with an exponent, and with the point behind the first one if another follows. -/
theorem unsignedDenotes_exponent {s ending : List Char} {n : ℕ} {lead : ℤ}
    (h : DigitsDenote Char.isDigit s n) (hending : EndingDenotes Char.isDigit ending lead) :
    UnsignedDenotes Char.isDigit
      (s.take 1 ++ (if s.length = 1 then [] else '.' :: s.drop 1) ++ ending)
      ⟨n, lead - (s.length - 1 : ℕ)⟩ := by
  split
  · next hone =>
    have hexponent : lead - (s.length - 1 : ℕ) = lead := by omega
    rw [hexponent, List.append_nil, List.take_of_length_le hone.le]
    exact .whole h hending
  · exact .point_inside h hending 1

/-- A floating-point number keeps the value of its shortest numeral. A point is put behind zeros
even where none is needed. -/
theorem exists_unsignedDenotes_layout (n : Numeral) : ∃ m : Numeral, m.value = n.value ∧
    UnsignedDenotes Char.isDigit (Value.floatLayout.magnitudeText n).toList m := by
  have hdigits := digitsDenote_toString n.digits
  have hlength : 0 < (toString n.digits).toList.length := List.length_pos_iff.2 hdigits.ne_nil
  rw [NumeralLayout.magnitudeText]
  generalize (toString n.digits).toList = digits at hdigits hlength
  dsimp only
  generalize hlead : (digits.length : ℤ) + n.exponent - 1 = lead
  split
  · split
    · next hexponent =>
      -- the point stands behind the digits and zeros, and one more zero behind it
      rw [String.toList_append, String.toList_ofList,
        show Value.floatLayout.wholeEnding.toList = ['.', '0'] from rfl]
      exact exists_unsignedDenotes_zeros hdigits hexponent
    · refine ⟨n, rfl, ?_⟩
      split
      · -- the point stands inside the digits
        have htext := UnsignedDenotes.point_inside hdigits .none (lead + 1).toNat
        have hexponent : 0 - ((digits.length - (lead + 1).toNat : ℕ) : ℤ) = n.exponent := by omega
        rw [hexponent, List.append_nil] at htext
        rwa [String.toList_ofList]
      · -- the point stands in front of zeros and the digits
        have htext := UnsignedDenotes.point_in_front hdigits .none (-lead - 1).toNat
        have hexponent : 0 - (((-lead - 1).toNat + digits.length : ℕ) : ℤ) = n.exponent := by omega
        rw [hexponent, List.append_nil] at htext
        rwa [String.toList_ofList]
  · refine ⟨n, rfl, ?_⟩
    have hpadded : DigitsDenote Char.isDigit
        (NumeralLayout.padded Value.floatLayout.exponentWidth lead.natAbs).toList lead.natAbs := by
      rw [NumeralLayout.padded, String.toList_append, String.toList_ofList]
      exact (digitsDenote_toString _).zeros_append _
    have hending := endingDenotes_of_natAbs (.inl rfl : 'e' = 'e' ∨ 'e' = 'E') rfl hpadded
    have htext := unsignedDenotes_exponent hdigits hending
    have hexponent : lead - (digits.length - 1 : ℕ) = n.exponent := by omega
    rw [hexponent] at htext
    rw [String.toList_append, String.toList_append, String.toList_append, String.toList_ofList,
      show Value.floatLayout.exponentMark.toList = ['e'] from rfl]
    simpa using htext

/-- **A finite floating-point number is written as a numeral that reads back to it.** -/
theorem denotes_floatText {x : Binary64} (h : x.isFinite = true) :
    ∃ d : Decimal, d.toBinary64? = some x ∧ Denotes Char.isDigit (Value.floatText x).toList d := by
  cases x with
  | nan => cases h
  | infinite negative => cases h
  | finite negative mantissa exponent stored =>
    obtain ⟨n, hvalue, htext⟩ :=
      exists_unsignedDenotes_layout (Binary64.shortest mantissa exponent)
    refine ⟨_, ?_, htext.signed negative⟩
    show some (Binary64.ofNumeral negative n) = _
    rw [Binary64.ofNumeral_congr hvalue, Binary64.ofNumeral_shortest stored]

end Sql

open Sql

/-! ### Numeric values -/

namespace Value

/-- The number that a value is: an integer or a decimal number is itself, a floating-point number
is what is nearest to it, and a text is what it reads as. -/
inductive IsNumber : Value → Decimal → Prop
  | int (n : ℤ) : IsNumber (.int n) (.finite (n < 0) n.natAbs 0)
  | decimal (d : Decimal) : IsNumber (.decimal d) d
  | float {x : Binary64} {d : Decimal} (h : d.toBinary64? = some x) : IsNumber (.float x) d
  | text {s : String} {d : Decimal} (h : Decimal.ofText? s = some d) : IsNumber (.text s) d

/-- A decimal number that counts as numeric is finite. -/
theorem exists_finite_of_isNumeric {d : Decimal} (h : (Value.decimal d).isNumeric = true) :
    ∃ negative c e, d = .finite negative c e := by
  cases d with
  | finite negative c e => exact ⟨negative, c, e, rfl⟩
  | infinite negative => cases h
  | nan negative signaling payload => cases signaling <;> cases h

/-- A number that is displayed as a numeral is displayed without blank characters. -/
theorem denotes_trim {s : List Char} {d : Decimal} (h : Denotes Char.isDigit s d) :
    Denotes Char.isDigit (Text.trim s) d := by
  rwa [(h.imp fun _ _ ↦ Text.isDecimalDigit_of_isDigit).form.trim_eq_self]

/-- **A numeric value is displayed as a numeral of the number that it is**, with basic digits unless
it is a text. -/
theorem exists_denotes_of_isNumeric {v : Value} (h : v.isNumeric = true) :
    ∃ d, v.IsNumber d ∧ Denotes Text.isDecimalDigit (Text.trim v.display.toList) d ∧
      ((∀ s, v ≠ .text s) → Denotes Char.isDigit (Text.trim v.display.toList) d) := by
  have hbasic : ∀ {v : Value} {d : Decimal}, v.IsNumber d →
      Denotes Char.isDigit v.display.toList d →
      ∃ d, v.IsNumber d ∧ Denotes Text.isDecimalDigit (Text.trim v.display.toList) d ∧
        ((∀ s, v ≠ .text s) → Denotes Char.isDigit (Text.trim v.display.toList) d) :=
    fun hnumber hd ↦ ⟨_, hnumber, (denotes_trim hd).imp fun _ _ ↦ Text.isDecimalDigit_of_isDigit,
      fun _ ↦ denotes_trim hd⟩
  cases v with
  | int n => exact hbasic (.int n) (denotes_display_int n)
  | float x =>
    obtain ⟨d, hd, htext⟩ := denotes_floatText h
    exact hbasic (.float hd) htext
  | decimal d =>
    obtain ⟨negative, c, e, rfl⟩ := exists_finite_of_isNumeric h
    exact hbasic (.decimal _) (denotes_text negative c e)
  | text s =>
    obtain ⟨d, hd⟩ := denotes_iff_form.2 ((isNumeral_iff _).1 h)
    exact ⟨d, .text (ofText?_of_denotes hd), hd, fun hs ↦ absurd rfl (hs s)⟩
  | _ => cases h

end Value

end ReportQuery
