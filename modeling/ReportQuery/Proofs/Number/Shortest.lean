import Mathlib.Tactic.FieldSimp
import ReportQuery.Proofs.Number.Rounding

/-!
# Shortest numerals read back

The numeral of a floating-point number denotes that number (`ofNumeral_shortest`). A candidate is
taken only if it reads back, so what has to be shown of the search is that its last resort, the
exact expansion, reads back too; and dropping zeros at the end does not change a value.

That no shorter numeral reads back is not shown here.

The search goes from one digit to seventeen. Only its outcome is looked at here: whichever candidate
is taken, it has passed the test that it reads back.
-/

namespace ReportQuery

namespace Numeral

/-- Zeros behind the digits are taken back by the exponent. -/
theorem value_zeros (n k : ℕ) (e : ℤ) :
    (⟨10 ^ k * n, e - k⟩ : Numeral).value = (⟨n, e⟩ : Numeral).value := by
  show ((10 ^ k * n : ℕ) : ℚ) * 10 ^ (e - k) = n * 10 ^ e
  rw [zpow_sub₀ (by norm_num), zpow_natCast, Nat.cast_mul, Nat.cast_pow, Nat.cast_ofNat]
  field_simp

theorem value_stripZerosBy (fuel : ℕ) (n : Numeral) : (stripZerosBy fuel n).value = n.value := by
  induction fuel generalizing n with
  | zero => rfl
  | succ fuel ih =>
    rw [stripZerosBy]
    split
    · next h =>
      have hdigits : 10 ^ 1 * (n.digits / 10) = n.digits := by omega
      have hexponent : n.exponent + 1 - (1 : ℕ) = n.exponent := by omega
      have hvalue := value_zeros (n.digits / 10) 1 (n.exponent + 1)
      rw [hdigits, hexponent] at hvalue
      rw [ih, ← hvalue]
    · rfl

/-- Zeros at the end go over into the exponent, and the value stays. -/
theorem value_stripZeros (n : Numeral) : n.stripZeros.value = n.value :=
  value_stripZerosBy _ n

end Numeral

namespace Binary64

/-- A power of a half is the same power of five, that many places behind the point. -/
theorem value_exactNumeral (m : ℕ) (e : ℤ) : (exactNumeral m e).value = m * 2 ^ e := by
  rw [exactNumeral]
  split
  · next h =>
    show ((m * 2 ^ e.toNat : ℕ) : ℚ) * 10 ^ (0 : ℤ) = _
    rw [zpow_zero, mul_one, Nat.cast_mul, Nat.cast_pow, ← zpow_natCast, Int.toNat_of_nonneg h,
      Nat.cast_ofNat]
  · next h =>
    show ((m * 5 ^ (-e).toNat : ℕ) : ℚ) * 10 ^ e = _
    rw [Nat.cast_mul, Nat.cast_pow, ← zpow_natCast, Int.toNat_of_nonneg (by omega), Nat.cast_ofNat,
      mul_assoc, show (10 : ℚ) = 5 * 2 by norm_num, mul_zpow, ← mul_assoc (5 ^ (-e)),
      ← zpow_add₀ (by norm_num), neg_add_cancel, zpow_zero, one_mul]

/-- **The shortest numeral of a stored number reads back**, with either sign. -/
theorem ofNumeral_shortest {m : ℕ} {e : ℤ} (h : Stored m e) (negative : Bool) :
    ofNumeral negative (shortest m e) = .finite negative m e h := by
  rw [shortest]
  split
  · next hzero =>
    refine ofNumeral_of_stored h ?_ negative
    simp [Numeral.value, hzero]
  · dsimp only
    generalize hfound : List.find? _ _ = found
    rw [ofNumeral_congr (Numeral.value_stripZeros _), ofNumeral_eq_signed]
    suffices hread : ofNumeral false (found.getD (exactNumeral m e)) = .finite false m e h by
      rw [hread]
      rfl
    cases found with
    | none => exact ofNumeral_of_stored h (value_exactNumeral m e) false
    | some c =>
      have hc := List.find?_some hfound
      rw [decide_eq_true_eq, ofParts_of_stored h] at hc
      exact hc

end Binary64

end ReportQuery
