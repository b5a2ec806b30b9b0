/-!
# Binary floating-point numbers

Numbers of the 64-bit binary format, with one zero of each sign, two infinities and one
not-a-number. A finite number is a mantissa times a power of two, in the one form that the
format stores: the mantissa has its full 53 bits, or the exponent is the least one. Equality of
the type is therefore equality of the stored number, signs of zero included.

A decimal numeral denotes the nearest number of the format, and of two equally near ones the one
with the even mantissa; what lies beyond the largest number is infinite.
-/

namespace ReportQuery

/-- The mantissa and exponent of a stored finite number. -/
def Binary64.Stored (mantissa : Nat) (exponent : Int) : Prop :=
  mantissa < Nat.pow 2 53 ∧ -1074 ≤ exponent ∧ exponent ≤ 971 ∧
    (Nat.pow 2 52 ≤ mantissa ∨ exponent = -1074)

instance (m : Nat) (e : Int) : Decidable (Binary64.Stored m e) :=
  inferInstanceAs (Decidable (_ ∧ _))

/-- A number of the 64-bit binary format. -/
inductive Binary64 where
  | nan
  | infinite (negative : Bool)
  | finite (negative : Bool) (mantissa : Nat) (exponent : Int)
      (stored : Binary64.Stored mantissa exponent)
deriving DecidableEq

namespace Binary64

/-- Zero, which is stored with either sign. -/
def signedZero (negative : Bool) : Binary64 :=
  .finite negative 0 (-1074) (by decide)

instance : Inhabited Binary64 := ⟨signedZero false⟩

/-- The number with the given parts; parts that are not stored exceed the format. -/
def ofParts (negative : Bool) (mantissa : Nat) (exponent : Int) : Binary64 :=
  if h : Stored mantissa exponent then .finite negative mantissa exponent h
  else .infinite negative

/-- Neither infinite nor not-a-number. -/
def isFinite : Binary64 → Bool
  | .finite .. => true
  | _ => false

/-- Zero of either sign. -/
def isZero : Binary64 → Bool
  | .finite _ m _ _ => m == 0
  | _ => false

/-! ### Rounding -/

/-- The quotient rounded to the nearest whole number, a half to the even neighbour. -/
def roundDiv (num den : Nat) : Nat :=
  let q := num / den
  let r := num % den
  if 2 * r < den then q
  else if den < 2 * r then q + 1
  else if q % 2 = 0 then q else q + 1

/-- A numerator and denominator scaled by a power of two. -/
def scaleTwo (num den : Nat) (power : Int) : Nat × Nat :=
  (num * Nat.pow 2 power.toNat, den * Nat.pow 2 (-power).toNat)

/-- The exponent of the greatest power of two that is at most `num / den`. The difference of the
bit lengths is this exponent or one more. -/
def binaryOrder (num den : Nat) : Int :=
  let guess : Int := num.log2 - den.log2
  let (n, d) := scaleTwo num den (-guess)
  if n < d then guess - 1 else guess

/-- The number nearest to `num / den`. -/
def ofRatio (negative : Bool) (num den : Nat) : Binary64 :=
  if num = 0 then signedZero negative
  else
    let e := max (binaryOrder num den - 52) (-1074)
    let (n, d) := scaleTwo num den (-e)
    let m := roundDiv n d
    if m = Nat.pow 2 53 then ofParts negative (Nat.pow 2 52) (e + 1) else ofParts negative m e

/-- The number of decimal digits of `n`, none for zero. -/
def digitCount (n : Nat) : Nat :=
  if n = 0 then 0 else (Nat.toDigits 10 n).length

/-- The number nearest to `digits` times ten to the power `exponent`. Numerals far outside the
range of the format are decided by their order of magnitude alone, which keeps the powers of ten
small. -/
def ofDecimal (negative : Bool) (digits : Nat) (exponent : Int) : Binary64 :=
  let order : Int := digitCount digits + exponent
  if digits = 0 then signedZero negative
  else if 310 < order then .infinite negative
  else if order < -330 then signedZero negative
  else ofRatio negative (digits * Nat.pow 10 exponent.toNat) (Nat.pow 10 (-exponent).toNat)

/-! ### Whole numbers -/

/-- The whole number that a floating-point number equals, if there is one. -/
def toInt? : Binary64 → Option Int
  | .finite negative m e _ =>
    let size : Option Nat :=
      let scale := Nat.pow 2 e.natAbs
      if 0 ≤ e then some (m * scale)
      else if m % scale = 0 then some (m / scale) else none
    size.map fun n ↦ if negative then -(n : Int) else n
  | _ => none

end Binary64

end ReportQuery
