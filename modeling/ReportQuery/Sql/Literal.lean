import ReportQuery.Scalar
import ReportQuery.Text.Blank
import ReportQuery.Text.Digit

/-!
# Literals

How a value is written into a statement. Null is the word NULL and a truth value TRUE or FALSE.
A finite number, and a text that reads as a numeral, is written bare. Everything else is a text
between single quotes, in which every single quote is doubled, so that the text cannot end the
literal.
-/

namespace ReportQuery.Sql

/-! ### Quoting -/

/-- The text with every single quote doubled. -/
def doubleQuotes : List Char → List Char
  | [] => []
  | c :: cs => if c = '\'' then '\'' :: '\'' :: doubleQuotes cs else c :: doubleQuotes cs

/-- The text between single quotes. -/
def quoteText (s : String) : String :=
  String.ofList ('\'' :: doubleQuotes s.toList ++ ['\''])

/-! ### Numerals -/

/-- The text after an optional sign. -/
def dropSign : List Char → List Char
  | '+' :: s => s
  | '-' :: s => s
  | s => s

/-- The text is an exponent, with its letter, an optional sign and digits. -/
def isExponent : List Char → Bool
  | c :: s =>
    (c == 'e' || c == 'E') && !(dropSign s).isEmpty && (dropSign s).all Text.isDecimalDigit
  | [] => false

/-- The text is empty or an exponent. -/
def isNumeralEnding (s : List Char) : Bool :=
  s.isEmpty || isExponent s

/-- The text is a numeral without sign: digits with at most one point among or beside them, then
an optional exponent. -/
def isUnsignedNumeral (s : List Char) : Bool :=
  let whole := s.takeWhile Text.isDecimalDigit
  match s.dropWhile Text.isDecimalDigit with
  | '.' :: rest =>
    let fraction := rest.takeWhile Text.isDecimalDigit
    !(whole.isEmpty && fraction.isEmpty) &&
      isNumeralEnding (rest.dropWhile Text.isDecimalDigit)
  | rest => !whole.isEmpty && isNumeralEnding rest

/-- The text is a numeral with an optional sign. Digits of every script count. -/
def isNumeral (s : List Char) : Bool :=
  isUnsignedNumeral (dropSign s)

end ReportQuery.Sql

namespace ReportQuery.Value

open Sql

/-- The value is a finite number, or a text that reads as one when trimmed. A decimal number
counts when the nearest floating-point number is finite. -/
def isNumeric : Value → Bool
  | .int _ => true
  | .float x => x.isFinite
  | .decimal d => (d.toBinary64?.map Binary64.isFinite).getD false
  | .text s => isNumeral (Text.trim s.toList)
  | _ => false

/-- A decimal number that refuses to be classified. -/
def isSignaling : Value → Bool
  | .decimal d => d.toBinary64?.isNone
  | _ => false

/-- The text of a value between quotes: moments in their form of interchange, all else as
itself. -/
def quotedContent : Value → String
  | .timestamp t => t.iso
  | v => v.display

/-- The value as a literal of a statement. -/
def asLiteral (v : Value) : String :=
  match v with
  | .null => "NULL"
  | .bool b => if b then "TRUE" else "FALSE"
  | v =>
    if v.isNumeric then String.ofList (Text.trim v.display.toList)
    else quoteText v.quotedContent

end ReportQuery.Value

namespace ReportQuery.Sql

/-- A list of literals between parentheses. -/
def literalList (items : List Value) : String :=
  "(" ++ ", ".intercalate (items.map Value.asLiteral) ++ ")"

end ReportQuery.Sql
