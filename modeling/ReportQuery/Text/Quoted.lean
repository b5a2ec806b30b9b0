import ReportQuery.Text.HalfPair
import ReportQuery.Text.Printable

/-!
# Quoted texts

A text between quotes, as messages show it. Single quotes are used unless the text holds a
single quote and no double one. Inside, the quote in use and the backslash get a backslash;
tab, line feed and carriage return have letters; any other character that is not printable, and
half of a surrogate pair, is written by its code point, in two, four or eight hexadecimal digits.
-/

namespace ReportQuery.Text

/-- The last `width` hexadecimal digits of `n`, in lower case. -/
def hexDigits (n : Nat) : Nat → List Char
  | 0 => []
  | width + 1 => hexDigits (n / 16) width ++ [(n % 16).digitChar]

/-- The quote that surrounds the text. -/
def quoteFor (s : List Char) : Char :=
  if s.contains '\'' && !s.contains '"' then '"' else '\''

/-- One character as it stands between quotes of the given kind. -/
def escapeChar (quote c : Char) : List Char :=
  if c = quote || c = '\\' then ['\\', c]
  else if c = '\t' then ['\\', 't']
  else if c = '\n' then ['\\', 'n']
  else if c = '\r' then ['\\', 'r']
  else if isPrintable c then [c]
  else if c.toNat < 0x100 then '\\' :: 'x' :: hexDigits c.toNat 2
  else if c.toNat < 0x10000 then '\\' :: 'u' :: hexDigits c.toNat 4
  else '\\' :: 'U' :: hexDigits c.toNat 8

/-- One code point as it stands between quotes of the given kind. -/
def escapePoint (quote : Char) (n : Nat) : List Char :=
  if isHalf n then '\\' :: 'u' :: hexDigits n 4 else escapeChar quote (Char.ofNat n)

/-- The text between quotes. -/
def quoted (s : String) : String :=
  let quote := quoteFor s.toList
  String.ofList (quote :: (points s.toList).flatMap (escapePoint quote) ++ [quote])

end ReportQuery.Text
