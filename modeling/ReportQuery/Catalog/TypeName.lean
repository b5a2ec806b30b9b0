import ReportQuery.Text.Digit
import ReportQuery.Text.Uppercase
import ReportQuery.Text.Word

/-!
# Names of column types

A column is declared with any text as its type, and a reader is shown the name of a standard
type. The text is read in upper case: its first words decide the type, and the numbers in round
brackets right behind them are its sizes. Words that are no standard type stand for a class of
types by what they contain: integers, texts, floating-point numbers, or else numbers in general.
-/

namespace ReportQuery.Catalog

/-- What a type shows of its sizes. -/
inductive Sizing where
  | hidden
  | length
  | precision
deriving Repr, DecidableEq

/-- A type by the name it is shown with. -/
structure StandardType where
  name : String
  sizing : Sizing := .hidden
deriving Repr, DecidableEq

namespace StandardType

/-- What is shown for a type that is left open. -/
def unspecified : StandardType := { name := "NullType" }

/-- Whole numbers. -/
def integer : StandardType := { name := "INTEGER" }

/-- Texts of any length. -/
def text : StandardType := { name := "TEXT", sizing := .length }

/-- Floating-point numbers. -/
def real : StandardType := { name := "REAL" }

/-- Numbers in general. -/
def numeric : StandardType := { name := "NUMERIC", sizing := .precision }

/-- The types that are known by the whole of their words. -/
def known : List (String × StandardType) := [
  ("BIGINT", { name := "BIGINT" }), ("BLOB", { name := "BLOB" }),
  ("BOOL", { name := "BOOLEAN" }), ("BOOLEAN", { name := "BOOLEAN" }),
  ("CHAR", { name := "CHAR", sizing := .length }),
  ("DATE", { name := "DATE" }), ("DATE_CHAR", { name := "DATE" }),
  ("DATETIME", { name := "DATETIME" }), ("DATETIME_CHAR", { name := "DATETIME" }),
  ("DECIMAL", { name := "DECIMAL", sizing := .precision }),
  ("DOUBLE", { name := "DOUBLE" }), ("DOUBLE_PRECISION", { name := "DOUBLE PRECISION" }),
  ("FLOAT", { name := "FLOAT" }), ("INT", integer), ("INTEGER", integer),
  ("JSON", { name := "JSON" }), ("NUMERIC", numeric), ("_NUMERIC", numeric),
  ("NVARCHAR", { name := "NVARCHAR", sizing := .length }), ("REAL", real),
  ("SMALLINT", { name := "SMALLINT" }), ("TEXT", text),
  ("TIME", { name := "TIME" }), ("TIME_CHAR", { name := "TIME" }),
  ("TIMESTAMP", { name := "TIMESTAMP" }),
  ("VARCHAR", { name := "VARCHAR", sizing := .length })]

/-- The type that words in upper case stand for. -/
def ofWords (words : List Char) : StandardType :=
  let has (part : String) : Bool := Text.occursIn part.toList words
  match known.lookup (String.ofList words) with
  | some type => type
  | none =>
    if has "INT" then integer
    else if has "CHAR" || has "CLOB" || has "TEXT" then text
    else if has "BLOB" || words.isEmpty then unspecified
    else if has "REAL" || has "FLOA" || has "DOUB" then real
    else numeric

end StandardType

namespace TypeName

/-- The words at the beginning of a type, and what follows them. -/
def words (s : List Char) : List Char × List Char :=
  s.span fun c ↦ c = ' ' || Text.isWordChar c

/-- The numbers written in a text: one for each of its longest runs of digits. The first
argument is the number that the digits before the text make, if it follows a digit. -/
def numbersFrom : Option Nat → List Char → List Nat
  | started, [] => started.toList
  | started, c :: s =>
    match Text.decimalDigit? c with
    | some d => numbersFrom (some (started.getD 0 * 10 + d)) s
    | none => started.toList ++ numbersFrom none s

/-- The numbers between the round brackets that a text begins with. The brackets close on the
line on which they open. -/
def sizes (s : List Char) : List Nat :=
  match s with
  | '(' :: s =>
    match s.span fun c ↦ c ≠ ')' && c ≠ '\n' with
    | (inside, ')' :: _) => numbersFrom none inside
    | _ => []
  | _ => []

/-- The sizes of a type as they are shown. A length of nothing is no length, and a second number
behind a length names an order of texts. Sizes of an unfitting number are not shown. -/
def sizesText (sizing : Sizing) (sizes : List Nat) : String :=
  match sizing, sizes with
  | .length, n :: order =>
    let length := if n = 0 then "" else "(" ++ toString n ++ ")"
    match order with
    | [] => length
    | [m] => if m = 0 then length else length ++ " COLLATE \"" ++ toString m ++ "\""
    | _ => ""
  | .precision, [p] => "(" ++ toString p ++ ")"
  | .precision, p :: s :: further =>
    if further.length ≤ 2 then "(" ++ toString p ++ ", " ++ toString s ++ ")" else ""
  | _, _ => ""

/-- The name that is shown for a declared type. -/
def standard (declared : String) : String :=
  let (words, rest) := words (Text.upper declared.toList)
  let type := StandardType.ofWords words
  type.name ++ sizesText type.sizing (sizes rest)

end TypeName

end ReportQuery.Catalog
