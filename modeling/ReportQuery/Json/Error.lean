/-!
# Errors of JSON texts

A text that is not JSON is refused at a definite character. The error names what is wrong there
and gives the place three ways: as line and column, counted from one, and as the number of
characters in front of it.
-/

namespace ReportQuery.Json

/-- What is wrong at the place of an error. -/
inductive Complaint where
  | valueExpected
  | keyExpected
  | colonExpected
  | commaExpected
  | extraData
  | unterminatedString
  | controlCharacter
  | invalidEscape
  | invalidCodePoint
  | byteOrderMark
deriving Repr, DecidableEq

/-- The wording of a complaint. -/
def Complaint.message : Complaint → String
  | valueExpected => "Expecting value"
  | keyExpected => "Expecting property name enclosed in double quotes"
  | colonExpected => "Expecting ':' delimiter"
  | commaExpected => "Expecting ',' delimiter"
  | extraData => "Extra data"
  | unterminatedString => "Unterminated string starting at"
  | controlCharacter => "Invalid control character at"
  | invalidEscape => "Invalid \\escape"
  | invalidCodePoint => "Invalid \\uXXXX escape"
  | byteOrderMark => "Unexpected UTF-8 BOM (decode using utf-8-sig)"

/-- A complaint with its place. -/
structure SyntaxError where
  complaint : Complaint
  line : Nat
  column : Nat
  offset : Nat
deriving Repr, DecidableEq

namespace SyntaxError

/-- The error at the given offset of a text. -/
def located (text : List Char) (complaint : Complaint) (offset : Nat) : SyntaxError :=
  let before := text.take offset
  { complaint
    line := before.count '\n' + 1
    column := (before.reverse.takeWhile (· ≠ '\n')).length + 1
    offset }

/-- The wording of an error with its place. -/
def message (e : SyntaxError) : String :=
  e.complaint.message ++ ": line " ++ toString e.line ++ " column " ++ toString e.column ++
    " (char " ++ toString e.offset ++ ")"

end SyntaxError

end ReportQuery.Json
