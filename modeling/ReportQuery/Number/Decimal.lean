import ReportQuery.Number.Shortest
import ReportQuery.Text.Blank
import ReportQuery.Text.Digit

/-!
# Exact decimal numbers

Decimal numbers with their scale: `1.50` and `1.5` are different values of the type. Besides
finite numbers there are two infinities and not-a-numbers, quiet and signaling, which may carry
digits.

The numeral of a finite number keeps every digit. It is positional when the exponent of the
last digit is at most zero and the first digit stands at most six places after the point, and
has an exponent otherwise.
-/

namespace ReportQuery

/-- A decimal number: `coefficient` times ten to the power `exponent`, with the sign apart, so that
zero has one too. -/
inductive Decimal where
  | finite (negative : Bool) (coefficient : Nat) (exponent : Int)
  | infinite (negative : Bool)
  | nan (negative signaling : Bool) (payload : List Char)
deriving Repr, DecidableEq

namespace Decimal

/-! ### Writing -/

/-- The digits of a finite number with the point at its place, or with an exponent. -/
def magnitudeText (coefficient : Nat) (exponent : Int) : String :=
  let digits := (toString coefficient).toList
  let left : Int := exponent + digits.length
  let point : Int := if exponent ≤ 0 ∧ -6 < left then left else 1
  let zeros (count : Int) := List.replicate count.toNat '0'
  let body :=
    if point ≤ 0 then '0' :: '.' :: zeros (-point) ++ digits
    else if digits.length ≤ point then digits ++ zeros (point - digits.length)
    else digits.take point.toNat ++ '.' :: digits.drop point.toNat
  let ending :=
    if left = point then ""
    else "E" ++ (if left < point then "-" else "+") ++ toString (left - point).natAbs
  String.ofList body ++ ending

/-- The text of a decimal number. -/
def text : Decimal → String
  | .finite negative c e => (if negative then "-" else "") ++ magnitudeText c e
  | .infinite negative => (if negative then "-" else "") ++ "Infinity"
  | .nan negative signaling payload =>
    (if negative then "-" else "") ++ (if signaling then "sNaN" else "NaN") ++
      String.ofList payload

/-! ### Reading -/

/-- The value of a run of decimal digits, or `none` when another character is among them. -/
def digitsValue? (s : List Char) : Option Nat :=
  s.foldl (fun acc c ↦ acc.bind fun n ↦ (Text.decimalDigit? c).map (10 * n + ·)) (some 0)

/-- A whole number with an optional sign. -/
def signedDigits? : List Char → Option Int
  | '-' :: s => if s.isEmpty then none else (digitsValue? s).map fun n ↦ -(n : Int)
  | '+' :: s => if s.isEmpty then none else (digitsValue? s).map Int.ofNat
  | s => if s.isEmpty then none else (digitsValue? s).map Int.ofNat

/-- A numeral without sign: digits with at most one point, then an optional exponent. -/
def unsigned? (s : List Char) : Option (Nat × Int) := do
  let isMark (c : Char) := c == 'e' || c == 'E'
  let mantissa := s.takeWhile (!isMark ·)
  let exponent ← match s.dropWhile (!isMark ·) with
    | [] => some 0
    | _ :: rest => signedDigits? rest
  let whole := mantissa.takeWhile (· != '.')
  let fraction := (mantissa.dropWhile (· != '.')).drop 1
  if whole.isEmpty && fraction.isEmpty then none
  else
    let coefficient ← digitsValue? (whole ++ fraction)
    some (coefficient, exponent - fraction.length)

/-- The decimal number that a text denotes. Blank characters around the text and underscores in
it do not count, and words are read in any case. -/
def ofText? (s : String) : Option Decimal :=
  let body := (Text.trim s.toList).filter (· != '_')
  let (negative, rest) := match body with
    | '-' :: rest => (true, rest)
    | '+' :: rest => (false, rest)
    | rest => (false, rest)
  let word := rest.map Char.toLower
  let digitsOnly (payload : List Char) := (digitsValue? payload).isSome
  if word = "inf".toList ∨ word = "infinity".toList then some (.infinite negative)
  else if "nan".toList.isPrefixOf word then
    if digitsOnly (word.drop 3) then some (.nan negative false (word.drop 3)) else none
  else if "snan".toList.isPrefixOf word then
    if digitsOnly (word.drop 4) then some (.nan negative true (word.drop 4)) else none
  else (unsigned? rest).map fun (c, e) ↦ .finite negative c e

/-! ### Conversion -/

/-- The nearest floating-point number. A signaling not-a-number has none. -/
def toBinary64? : Decimal → Option Binary64
  | .finite negative c e => some (.ofDecimal negative c e)
  | .infinite negative => some (.infinite negative)
  | .nan _ signaling _ => if signaling then none else some .nan

end Decimal

end ReportQuery
