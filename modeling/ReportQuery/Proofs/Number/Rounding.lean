import Mathlib.Data.Int.Log
import Mathlib.Data.Nat.Log
import Mathlib.Data.Rat.Floor
import Mathlib.Tactic.NormNum
import ReportQuery.Number.Shortest

/-!
# Rounding to floating-point numbers

`ofRatio` and `ofDecimal` compute with numerators, denominators and counts of digits. What they
compute is a function of the rational number alone (`ofRatio_congr`, `ofNumeral_congr`), and it
leaves a rational number that the format stores as it is (`ofNumeral_of_stored`). Nothing is said
here about rational numbers between two stored ones.

Both facts rest on one reading of the two orders of magnitude: the binary order of a quotient and
the number of decimal digits of a numeral are logarithms of the rational number, `Int.log 2` and
`Int.log 10`, whatever numerator and denominator it is given by.

The sign is put on at the end and decides nothing (`ofNumeral_eq_signed`).

## Why the fraction does not matter

A number can be given as many fractions: a numeral with zeros at its end has more digits than it
needs, and scaling by a power of two multiplies the numerator or the denominator. Rounding a
quotient of natural numbers sees only the quotient (`roundDiv_congr`), because it compares twice a
remainder with the denominator, and both grow with a common factor. The choice of the exponent is
the other place at which the fraction could enter; it is made by the orders of magnitude above.
-/

namespace ReportQuery

/-! ### Powers and logarithms -/

/-- A power with an integer exponent, by the two natural exponents that it is computed with. -/
theorem zpow_eq_div_toNat {x : ℚ} (hx : x ≠ 0) (k : ℤ) :
    x ^ k = x ^ k.toNat / x ^ (-k).toNat := by
  rw [← zpow_natCast, ← zpow_natCast, ← zpow_sub₀ hx, Int.toNat_sub_toNat_neg]

/-- The logarithm is the exponent between whose powers a number lies. -/
theorem log_eq_of_bounds {b : ℕ} (hb : 1 < b) {r : ℚ} {k : ℤ} (hlow : (b : ℚ) ^ k ≤ r)
    (hhigh : r < (b : ℚ) ^ (k + 1)) : Int.log b r = k := by
  have hpos : 0 < r := lt_of_lt_of_le (zpow_pos (by positivity) k) hlow
  have hle : k ≤ Int.log b r := (Int.zpow_le_iff_le_log hb hpos).1 hlow
  have hlt : Int.log b r < k + 1 := (Int.lt_zpow_iff_log_lt hb hpos).1 hhigh
  omega

/-- The rational number that a numeral is. -/
def Numeral.value (n : Numeral) : ℚ :=
  n.digits * 10 ^ n.exponent

namespace Binary64

/-! ### Quotients -/

/-- Rounding a quotient does not see a common factor. -/
theorem roundDiv_mul_left {k : ℕ} (hk : 0 < k) (num den : ℕ) :
    roundDiv (k * num) (k * den) = roundDiv num den := by
  have hlt : 2 * (k * (num % den)) < k * den ↔ 2 * (num % den) < den := by
    rw [Nat.mul_left_comm, Nat.mul_lt_mul_left hk]
  have hgt : k * den < 2 * (k * (num % den)) ↔ den < 2 * (num % den) := by
    rw [Nat.mul_left_comm, Nat.mul_lt_mul_left hk]
  simp only [roundDiv, Nat.mul_div_mul_left _ _ hk, Nat.mul_mod_mul_left, hlt, hgt]

/-- Rounding depends on the quotient alone. -/
theorem roundDiv_congr {num den num' den' : ℕ} (hden : den ≠ 0) (hden' : den' ≠ 0)
    (h : (num : ℚ) / den = num' / den') : roundDiv num den = roundDiv num' den' := by
  have hcross : den' * num = den * num' := by
    rw [div_eq_div_iff (by exact_mod_cast hden) (by exact_mod_cast hden')] at h
    have hnat : num * den' = num' * den := by exact_mod_cast h
    rw [Nat.mul_comm, hnat, Nat.mul_comm]
  rw [← roundDiv_mul_left (Nat.pos_of_ne_zero hden') num den, hcross, Nat.mul_comm den' den,
    roundDiv_mul_left (Nat.pos_of_ne_zero hden)]

/-- A whole quotient is not rounded. -/
theorem roundDiv_eq_of_div_eq {num den m : ℕ} (hden : den ≠ 0) (h : (num : ℚ) / den = m) :
    roundDiv num den = m := by
  have hquotient : (num : ℚ) / den = m / (1 : ℕ) := by simpa using h
  rw [roundDiv_congr hden one_ne_zero hquotient]
  simp [roundDiv, Nat.mod_one]

theorem scaleTwo_snd_ne_zero {den : ℕ} (hden : den ≠ 0) (num : ℕ) (power : ℤ) :
    (scaleTwo num den power).2 ≠ 0 :=
  Nat.mul_ne_zero hden (Nat.pow_pos (by decide)).ne'

/-- **Scaling multiplies the quotient by the power of two**, on one side of the fraction or the
other. -/
theorem div_scaleTwo (num den : ℕ) (power : ℤ) :
    ((scaleTwo num den power).1 : ℚ) / (scaleTwo num den power).2 = num / den * 2 ^ power := by
  show ((num * 2 ^ power.toNat : ℕ) : ℚ) / ((den * 2 ^ (-power).toNat : ℕ) : ℚ) = _
  rw [zpow_eq_div_toNat two_ne_zero, Nat.cast_mul, Nat.cast_mul, Nat.cast_pow, Nat.cast_pow,
    Nat.cast_ofNat, mul_div_mul_comm]

/-- **The binary order is the logarithm** of the quotient: the difference of the bit lengths is
this logarithm or one more, and the comparison tells which. -/
theorem binaryOrder_eq_log {num den : ℕ} (hnum : num ≠ 0) (hden : den ≠ 0) :
    binaryOrder num den = Int.log 2 ((num : ℚ) / den) := by
  have hnum_low : (2 : ℚ) ^ num.log2 ≤ num := by exact_mod_cast Nat.log2_self_le hnum
  have hnum_high : (num : ℚ) < 2 ^ (num.log2 + 1) := by exact_mod_cast Nat.lt_log2_self
  have hden_low : (2 : ℚ) ^ den.log2 ≤ den := by exact_mod_cast Nat.log2_self_le hden
  have hden_high : (den : ℚ) < 2 ^ (den.log2 + 1) := by exact_mod_cast Nat.lt_log2_self
  have hden_pos : (0 : ℚ) < den := by exact_mod_cast Nat.pos_of_ne_zero hden
  -- the guess is off by one at most, and one comparison decides
  generalize hguess : (num.log2 : ℤ) - den.log2 = guess
  have hcompare : (scaleTwo num den (-guess)).1 < (scaleTwo num den (-guess)).2 ↔
      (num : ℚ) / den < 2 ^ guess := by
    have hpos : (0 : ℚ) < (scaleTwo num den (-guess)).2 := by
      exact_mod_cast Nat.pos_of_ne_zero (scaleTwo_snd_ne_zero hden num (-guess))
    rw [← Nat.cast_lt (α := ℚ), ← div_lt_one hpos, div_scaleTwo, zpow_neg, ← div_eq_mul_inv,
      div_lt_one (zpow_pos two_pos guess)]
  have hlow : (2 : ℚ) ^ (guess - 1) ≤ num / den := by
    rw [le_div_iff₀ hden_pos]
    calc (2 : ℚ) ^ (guess - 1) * den
        ≤ 2 ^ (guess - 1) * 2 ^ (den.log2 + 1) := by
          exact mul_le_mul_of_nonneg_left hden_high.le (zpow_pos two_pos _).le
      _ = 2 ^ num.log2 := by
          rw [← zpow_natCast, ← zpow_natCast, ← zpow_add₀ two_ne_zero]
          congr 1
          push_cast
          omega
      _ ≤ num := hnum_low
  have hhigh : (num : ℚ) / den < 2 ^ (guess + 1) := by
    rw [div_lt_iff₀ hden_pos]
    calc (num : ℚ) < 2 ^ (num.log2 + 1) := hnum_high
      _ = 2 ^ (guess + 1) * 2 ^ den.log2 := by
          rw [← zpow_natCast, ← zpow_natCast, ← zpow_add₀ two_ne_zero]
          congr 1
          push_cast
          omega
      _ ≤ 2 ^ (guess + 1) * den :=
          mul_le_mul_of_nonneg_left hden_low (zpow_pos two_pos _).le
  simp only [binaryOrder, hguess]
  split
  · next h =>
    refine (log_eq_of_bounds one_lt_two ?_ ?_).symm
    · exact_mod_cast hlow
    · rw [sub_add_cancel]
      exact_mod_cast hcompare.1 h
  · next h =>
    refine (log_eq_of_bounds one_lt_two ?_ ?_).symm
    · exact_mod_cast not_lt.1 (mt hcompare.2 h)
    · exact_mod_cast hhigh

/-- **The nearest number depends on the quotient alone.** -/
theorem ofRatio_congr {num den num' den' : ℕ} (hden : den ≠ 0) (hden' : den' ≠ 0)
    (h : (num : ℚ) / den = num' / den') (negative : Bool) :
    ofRatio negative num den = ofRatio negative num' den' := by
  have hzero : num = 0 ↔ num' = 0 := by
    have hden : (den : ℚ) ≠ 0 := by exact_mod_cast hden
    have hden' : (den' : ℚ) ≠ 0 := by exact_mod_cast hden'
    rw [← Nat.cast_eq_zero (R := ℚ), ← Nat.cast_eq_zero (R := ℚ) (n := num'),
      ← div_eq_zero_iff.trans (or_iff_left hden), h, div_eq_zero_iff.trans (or_iff_left hden')]
  by_cases hnum : num = 0
  · rw [ofRatio, if_pos hnum, ofRatio, if_pos (hzero.1 hnum)]
  · have hnum' : num' ≠ 0 := mt hzero.2 hnum
    have horder : binaryOrder num den = binaryOrder num' den' := by
      rw [binaryOrder_eq_log hnum hden, binaryOrder_eq_log hnum' hden', h]
    have hround : ∀ power, roundDiv (scaleTwo num den power).1 (scaleTwo num den power).2 =
        roundDiv (scaleTwo num' den' power).1 (scaleTwo num' den' power).2 := by
      intro power
      refine roundDiv_congr (scaleTwo_snd_ne_zero hden _ _) (scaleTwo_snd_ne_zero hden' _ _) ?_
      rw [div_scaleTwo, div_scaleTwo, h]
    simp only [ofRatio, hnum, hnum', if_false, horder, hround]

/-! ### Stored numbers -/

/-- Parts that can be stored are stored as they are. -/
theorem ofParts_of_stored {m : ℕ} {e : ℤ} (h : Stored m e) (negative : Bool) :
    ofParts negative m e = .finite negative m e h :=
  dif_pos h

/-- A stored magnitude lies below the power of two that the format cannot hold. -/
theorem Stored.value_lt {m : ℕ} {e : ℤ} (h : Stored m e) : (m : ℚ) * 2 ^ e < 2 ^ (1024 : ℤ) := by
  obtain ⟨hm, -, he, -⟩ := h
  have hm : (m : ℚ) < 2 ^ (53 : ℤ) := by exact_mod_cast hm
  calc (m : ℚ) * 2 ^ e < 2 ^ (53 : ℤ) * 2 ^ e := by
        exact mul_lt_mul_of_pos_right hm (zpow_pos two_pos e)
    _ = 2 ^ (53 + e) := (zpow_add₀ two_ne_zero _ _).symm
    _ ≤ 2 ^ (1024 : ℤ) := zpow_le_zpow_right₀ one_le_two (by omega)

/-- And it is at least the least one, unless it is zero. -/
theorem Stored.le_value {m : ℕ} {e : ℤ} (h : Stored m e) (hm : m ≠ 0) :
    (2 : ℚ) ^ (-1074 : ℤ) ≤ m * 2 ^ e := by
  obtain ⟨-, he, -, -⟩ := h
  have hm : (1 : ℚ) ≤ m := by exact_mod_cast Nat.one_le_iff_ne_zero.2 hm
  calc (2 : ℚ) ^ (-1074 : ℤ) ≤ 2 ^ e := zpow_le_zpow_right₀ one_le_two he
    _ ≤ m * 2 ^ e := le_mul_of_one_le_left (zpow_pos two_pos e).le hm

/-- The last place of a stored number is the one that rounding chooses for it. -/
theorem Stored.exponent_eq {m : ℕ} {e : ℤ} (h : Stored m e) (hm : m ≠ 0) :
    max (Int.log 2 ((m : ℚ) * 2 ^ e) - 52) (-1074) = e := by
  obtain ⟨hlimit, hleast, -, hfull⟩ := h
  have hlog : Int.log 2 ((m : ℚ) * 2 ^ e) = Nat.log2 m + e := by
    refine log_eq_of_bounds one_lt_two ?_ ?_
    · rw [Nat.cast_ofNat, zpow_add₀ two_ne_zero, zpow_natCast]
      refine mul_le_mul_of_nonneg_right ?_ (zpow_pos two_pos e).le
      exact_mod_cast Nat.log2_self_le hm
    · rw [Nat.cast_ofNat, add_right_comm, zpow_add₀ two_ne_zero]
      refine mul_lt_mul_of_pos_right ?_ (zpow_pos two_pos e)
      exact_mod_cast Nat.lt_log2_self
  have hbits : Nat.log2 m < 53 := (Nat.log2_lt hm).2 hlimit
  rw [hlog]
  rcases hfull with hfull | rfl
  · have hbits' : ¬ Nat.log2 m < 52 := mt (Nat.log2_lt hm).1 (not_lt.2 hfull)
    omega
  · omega

/-- A quotient that is stored is not rounded. -/
theorem ofRatio_of_stored {num den m : ℕ} {e : ℤ} (hden : den ≠ 0) (hstored : Stored m e)
    (h : (num : ℚ) / den = m * 2 ^ e) (negative : Bool) :
    ofRatio negative num den = .finite negative m e hstored := by
  have hdenq : (den : ℚ) ≠ 0 := by exact_mod_cast hden
  have htwo : (2 : ℚ) ^ e ≠ 0 := zpow_ne_zero e two_ne_zero
  by_cases hnum : num = 0
  · have hm : m = 0 := by
      have hzero : (m : ℚ) * 2 ^ e = 0 := by rw [← h, hnum, Nat.cast_zero, zero_div]
      exact_mod_cast (mul_eq_zero.1 hzero).resolve_right htwo
    subst hm
    obtain ⟨-, -, -, hfull⟩ := id hstored
    obtain rfl : e = -1074 := hfull.resolve_left (by decide)
    rw [ofRatio, if_pos hnum]
    rfl
  · have hm : m ≠ 0 := by
      rintro rfl
      rw [Nat.cast_zero, zero_mul] at h
      exact hnum (by exact_mod_cast (div_eq_zero_iff.1 h).resolve_right hdenq)
    have hround : roundDiv (scaleTwo num den (-e)).1 (scaleTwo num den (-e)).2 = m := by
      refine roundDiv_eq_of_div_eq (scaleTwo_snd_ne_zero hden _ _) ?_
      rw [div_scaleTwo, h, zpow_neg, mul_inv_cancel_right₀ htwo]
    have hlimit : m ≠ Nat.pow 2 53 := hstored.1.ne
    simp only [ofRatio, hnum, if_false, binaryOrder_eq_log hnum hden, h, hstored.exponent_eq hm,
      hround, hlimit]
    exact ofParts_of_stored hstored negative

/-! ### Decimal numerals -/

/-- What the format cannot hold has at most 309 digits before the point. -/
theorem two_zpow_lt : (2 : ℚ) ^ (1024 : ℤ) < (10 : ℕ) ^ (309 : ℤ) := by
  have hpow : 2 ^ 1024 < 10 ^ 309 := by decide +kernel
  show (2 : ℚ) ^ ((1024 : ℕ) : ℤ) < (10 : ℕ) ^ ((309 : ℕ) : ℤ)
  rw [zpow_natCast, zpow_natCast]
  exact_mod_cast hpow

/-- The least stored magnitude has its first digit at most 324 places behind the point. -/
theorem ten_zpow_le : ((10 : ℕ) : ℚ) ^ (-324 : ℤ) ≤ 2 ^ (-1074 : ℤ) := by
  have hpow : 2 ^ 1074 ≤ 10 ^ 324 := by decide +kernel
  show ((10 : ℕ) : ℚ) ^ (-((324 : ℕ) : ℤ)) ≤ 2 ^ (-((1074 : ℕ) : ℤ))
  rw [zpow_neg, zpow_neg, zpow_natCast, zpow_natCast,
    inv_le_inv₀ (by positivity) (by positivity)]
  exact_mod_cast hpow

/-- **The digits of a numeral reach up to its logarithm.** -/
theorem digitCount_add_exponent {n : Numeral} (h : n.digits ≠ 0) :
    (digitCount n.digits : ℤ) + n.exponent = Int.log 10 n.value + 1 := by
  obtain ⟨digits, exponent⟩ := n
  have hcount : digitCount digits = (Nat.toDigits 10 digits).length := if_neg h
  have hlength : ∀ k, 0 < k → ((Nat.toDigits 10 digits).length ≤ k ↔ digits < 10 ^ k) :=
    fun k hk ↦ Nat.length_toDigits_le_iff (by decide) hk
  have hpos : 0 < (Nat.toDigits 10 digits).length := Nat.length_toDigits_pos
  rw [hcount]
  -- from here on the digits count only by their number
  generalize (Nat.toDigits 10 digits).length = count at hlength hpos
  have hhigh : digits < 10 ^ count := (hlength count hpos).1 le_rfl
  have hlow : 10 ^ (count - 1) ≤ digits := by
    rcases Nat.eq_zero_or_pos (count - 1) with hone | hmore
    · rw [hone, pow_zero]
      exact Nat.one_le_iff_ne_zero.2 h
    · by_contra hlt
      have := (hlength _ hmore).2 (not_le.1 hlt)
      omega
  have hten : (0 : ℚ) < 10 ^ exponent := zpow_pos (by norm_num) exponent
  have hlog : Int.log 10 (Numeral.value ⟨digits, exponent⟩) = ((count - 1 : ℕ) : ℤ) + exponent := by
    refine log_eq_of_bounds (by decide) ?_ ?_
    · rw [Nat.cast_ofNat, zpow_add₀ (by norm_num), zpow_natCast]
      refine mul_le_mul_of_nonneg_right ?_ hten.le
      exact_mod_cast hlow
    · have hsum : ((count - 1 : ℕ) : ℤ) + exponent + 1 = count + exponent := by omega
      rw [Nat.cast_ofNat, hsum, zpow_add₀ (by norm_num), zpow_natCast]
      refine mul_lt_mul_of_pos_right ?_ hten
      exact_mod_cast hhigh
  rw [hlog]
  show (count : ℤ) + exponent = _
  omega

/-- The value of a numeral as a quotient of natural numbers. -/
theorem value_eq_div (n : Numeral) : n.value =
    ((n.digits * Nat.pow 10 n.exponent.toNat : ℕ) : ℚ) / (Nat.pow 10 (-n.exponent).toNat : ℕ) := by
  show _ = ((n.digits * 10 ^ n.exponent.toNat : ℕ) : ℚ) / ((10 ^ (-n.exponent).toNat : ℕ) : ℚ)
  rw [Numeral.value, zpow_eq_div_toNat (by norm_num), Nat.cast_mul, Nat.cast_pow, Nat.cast_pow,
    Nat.cast_ofNat, mul_div_assoc]

theorem value_eq_zero_iff (n : Numeral) : n.value = 0 ↔ n.digits = 0 := by
  rw [Numeral.value, mul_eq_zero, Nat.cast_eq_zero,
    or_iff_left (zpow_ne_zero n.exponent (by norm_num))]

theorem ten_pow_ne_zero (k : ℕ) : Nat.pow 10 k ≠ 0 :=
  (Nat.pow_pos (by decide)).ne'

/-- The nearest number of a numeral, by the logarithm of its value. -/
theorem ofNumeral_eq {n : Numeral} (h : n.digits ≠ 0) (negative : Bool) :
    ofNumeral negative n =
      if 310 < Int.log 10 n.value + 1 then .infinite negative
      else if Int.log 10 n.value + 1 < -330 then signedZero negative
      else ofRatio negative (n.digits * Nat.pow 10 n.exponent.toNat)
        (Nat.pow 10 (-n.exponent).toNat) := by
  rw [ofNumeral, ofDecimal]
  simp only [h, if_false, digitCount_add_exponent h]

/-- **The nearest number depends on the value of the numeral alone**, and not on how many zeros it
is written with. -/
theorem ofNumeral_congr {n n' : Numeral} (h : n.value = n'.value) (negative : Bool) :
    ofNumeral negative n = ofNumeral negative n' := by
  have hzero : n.digits = 0 ↔ n'.digits = 0 := by
    rw [← value_eq_zero_iff, ← value_eq_zero_iff, h]
  by_cases hn : n.digits = 0
  · simp [ofNumeral, ofDecimal, hn, hzero.1 hn]
  · have hratio := ofRatio_congr (ten_pow_ne_zero (-n.exponent).toNat)
      (ten_pow_ne_zero (-n'.exponent).toNat)
      ((value_eq_div n).symm.trans (h.trans (value_eq_div n'))) negative
    rw [ofNumeral_eq hn, ofNumeral_eq (mt hzero.2 hn), h, hratio]

/-- **A numeral whose value is stored denotes that number**: the guards against numerals far outside
the range do not meet it. -/
theorem ofNumeral_of_stored {n : Numeral} {m : ℕ} {e : ℤ} (hstored : Stored m e)
    (h : n.value = m * 2 ^ e) (negative : Bool) :
    ofNumeral negative n = .finite negative m e hstored := by
  have hratio := ofRatio_of_stored (ten_pow_ne_zero (-n.exponent).toNat) hstored
    ((value_eq_div n).symm.trans h) negative
  by_cases hn : n.digits = 0
  · rw [hn, Nat.zero_mul, ofRatio, if_pos rfl] at hratio
    rw [← hratio, ofNumeral, ofDecimal]
    exact if_pos hn
  · have hm : m ≠ 0 := by
      rintro rfl
      rw [Nat.cast_zero, zero_mul, value_eq_zero_iff] at h
      exact hn h
    have hpos : 0 < n.value := by
      rw [h]
      exact lt_of_lt_of_le (zpow_pos two_pos _) (hstored.le_value hm)
    -- a stored number is in the range in which a numeral is not cut short
    have hhigh : Int.log 10 n.value < 309 := by
      refine (Int.lt_zpow_iff_log_lt (by decide) hpos).1 ?_
      rw [h]
      exact hstored.value_lt.trans two_zpow_lt
    have hlow : -324 ≤ Int.log 10 n.value := by
      refine (Int.zpow_le_iff_le_log (by decide) hpos).1 ?_
      rw [h]
      exact ten_zpow_le.trans (hstored.le_value hm)
    rw [ofNumeral_eq hn, if_neg (by omega), if_neg (by omega), hratio]

/-! ### Signs -/

/-- The number with the given sign. -/
def signed (negative : Bool) : Binary64 → Binary64
  | .nan => .nan
  | .infinite _ => .infinite negative
  | .finite _ m e h => .finite negative m e h

theorem ofParts_eq_signed (negative : Bool) (m : ℕ) (e : ℤ) :
    ofParts negative m e = signed negative (ofParts false m e) := by
  rw [ofParts, ofParts]
  split <;> rfl

/-- The sign of a ratio is put on after its magnitude is rounded. -/
theorem ofRatio_eq_signed (negative : Bool) (num den : ℕ) :
    ofRatio negative num den = signed negative (ofRatio false num den) := by
  rw [ofRatio, ofRatio]
  split
  · rfl
  · dsimp only
    split
    · exact ofParts_eq_signed _ _ _
    · exact ofParts_eq_signed _ _ _

/-- The sign of a numeral is the sign of its number. -/
theorem ofNumeral_eq_signed (negative : Bool) (n : Numeral) :
    ofNumeral negative n = signed negative (ofNumeral false n) := by
  rw [ofNumeral, ofNumeral, ofDecimal, ofDecimal]
  split
  · rfl
  · split
    · rfl
    · split
      · rfl
      · exact ofRatio_eq_signed _ _ _

end Binary64

end ReportQuery
