import ReportQuery.Number.Binary64

/-!
# Shortest decimal numerals

The decimal numeral of a floating-point number is the shortest one that denotes it, and of
several shortest ones the nearest to the number. For one digit, two digits and so on, the only
candidates are the two neighbours of the number on the grid of that many digits; the first grid
with a neighbour that reads back decides. The exact expansion of the number closes the search,
so that a numeral that reads back is found in every case.

The layout of the digits is a record of its own, since formats differ in it.
-/

namespace ReportQuery

/-- A sequence of decimal digits with the position of the point: `digits` times ten to the power
`exponent`. -/
structure Numeral where
  digits : Nat
  exponent : Int
deriving Repr, DecidableEq

namespace Numeral

/-- Drops zeros at the end, one for each step of `fuel`. -/
def stripZerosBy : Nat → Numeral → Numeral
  | 0, n => n
  | fuel + 1, n =>
    if n.digits ≠ 0 ∧ n.digits % 10 = 0 then stripZerosBy fuel ⟨n.digits / 10, n.exponent + 1⟩
    else n

/-- The same value without zeros at the end. -/
def stripZeros (n : Numeral) : Numeral :=
  stripZerosBy (Binary64.digitCount n.digits) n

end Numeral

namespace Binary64

/-- The number that a numeral denotes. -/
def ofNumeral (negative : Bool) (n : Numeral) : Binary64 :=
  ofDecimal negative n.digits n.exponent

/-- The numerator and denominator of a stored magnitude. -/
def magnitude (mantissa : Nat) (exponent : Int) : Nat × Nat :=
  scaleTwo mantissa 1 exponent

/-- The exact decimal expansion of a stored magnitude: a half is five tenths. -/
def exactNumeral (mantissa : Nat) (exponent : Int) : Numeral :=
  if 0 ≤ exponent then ⟨mantissa * Nat.pow 2 exponent.toNat, 0⟩
  else ⟨mantissa * Nat.pow 5 (-exponent).toNat, exponent⟩

/-- The exponent `k` with `10 ^ (k - 1) ≤ num / den < 10 ^ k`. -/
def decimalOrder (num den : Nat) : Int :=
  let guess : Int := digitCount num - digitCount den
  let small := num * Nat.pow 10 (-guess).toNat < den * Nat.pow 10 guess.toNat
  if small then guess else guess + 1

/-- The two neighbours of `num / den` on the grid of `count` digits, the nearer one first; of two
equally near ones, the even one. -/
def neighbours (num den : Nat) (order : Int) (count : Nat) : List Numeral :=
  let unit : Int := order - count
  let n := num * Nat.pow 10 (-unit).toNat
  let d := den * Nat.pow 10 unit.toNat
  let below := n / d
  let nearest := roundDiv n d
  if nearest = below then [⟨below, unit⟩, ⟨below + 1, unit⟩]
  else [⟨below + 1, unit⟩, ⟨below, unit⟩]

/-- The shortest numeral of a stored magnitude that reads back, and the nearest of these. -/
def shortest (mantissa : Nat) (exponent : Int) : Numeral :=
  if mantissa = 0 then ⟨0, 0⟩
  else
    let (num, den) := magnitude mantissa exponent
    let order := decimalOrder num den
    let candidates := (List.range 17).flatMap fun count ↦ neighbours num den order (count + 1)
    let found := candidates.find? fun c ↦ ofNumeral false c = ofParts false mantissa exponent
    (found.getD (exactNumeral mantissa exponent)).stripZeros

end Binary64

/-! ### Layout -/

/-- The decisions of a notation for numerals. -/
structure NumeralLayout where
  /-- The least exponent of the first digit that is written positionally. -/
  leastPositional : Int
  /-- The greatest exponent of the first digit that is written positionally. -/
  greatestPositional : Int
  /-- What stands after a positional numeral without fraction. -/
  wholeEnding : String
  /-- The mark between digits and exponent. -/
  exponentMark : String
  /-- The least number of digits of the exponent. -/
  exponentWidth : Nat
  nanText : String
  infinityText : String

namespace NumeralLayout

/-- A natural number with zeros in front, up to the width. -/
def padded (width n : Nat) : String :=
  let digits := toString n
  String.ofList (List.replicate (width - digits.length) '0') ++ digits

/-- The digits of a numeral with the point at its place, or in front of an exponent. -/
def magnitudeText (layout : NumeralLayout) (n : Numeral) : String :=
  let digits := (toString n.digits).toList
  let lead : Int := digits.length + n.exponent - 1
  let zeros (count : Int) := List.replicate count.toNat '0'
  if layout.leastPositional ≤ lead ∧ lead ≤ layout.greatestPositional then
    if 0 ≤ n.exponent then String.ofList (digits ++ zeros n.exponent) ++ layout.wholeEnding
    else if 0 ≤ lead then
      String.ofList (digits.take (lead + 1).toNat ++ '.' :: digits.drop (lead + 1).toNat)
    else String.ofList ('0' :: '.' :: zeros (-lead - 1) ++ digits)
  else
    let sign := if lead < 0 then "-" else "+"
    let fraction := if digits.length = 1 then [] else '.' :: digits.drop 1
    String.ofList (digits.take 1 ++ fraction) ++ layout.exponentMark ++ sign ++
      padded layout.exponentWidth lead.natAbs

/-- The text of a floating-point number. -/
def text (layout : NumeralLayout) : Binary64 → String
  | .nan => layout.nanText
  | .infinite negative => (if negative then "-" else "") ++ layout.infinityText
  | .finite negative m e _ =>
    (if negative then "-" else "") ++ layout.magnitudeText (Binary64.shortest m e)

end NumeralLayout

end ReportQuery
