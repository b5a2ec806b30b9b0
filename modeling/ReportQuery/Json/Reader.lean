import ReportQuery.Json.Error
import ReportQuery.Record
import ReportQuery.Text.HalfPair

/-!
# Reading JSON

A reader for JSON texts that also accepts `NaN`, `Infinity` and `-Infinity`. A numeral with a
fraction or an exponent is a floating-point number, any other an integer of any size. In a
record a repeated key keeps its first place and its last value. Half of a surrogate pair that is
named alone is kept in its text.

Nothing bounds the depth of nesting or the digits of a numeral. An interpreter that runs out of
stack, or that refuses to convert a numeral of thousands of digits, fails on texts that are read
here; such limits are its configuration and not part of what a text means.

Each step takes the characters that are left and returns those after what it has read. An error
carries the number of characters that were left where it arose, from which the place in the
whole text follows. The steps that read nested values take a measure of work as their first
argument; two for each character are always enough.
-/

namespace ReportQuery.Json

/-- A complaint, with the number of characters left at its place. -/
structure Fault where
  complaint : Complaint
  left : Nat
deriving Repr, DecidableEq

/-- Refuse at the first of the given characters. -/
def refuse {α : Type} (complaint : Complaint) (rest : List Char) : Except Fault α :=
  .error ⟨complaint, rest.length⟩

/-- White space between the parts of a text. -/
def isSpace (c : Char) : Bool :=
  c = ' ' || c = '\t' || c = '\n' || c = '\r'

/-- The text from its first character that is not white space. -/
def skipSpace (s : List Char) : List Char :=
  s.dropWhile isSpace

/-! ### Strings -/

/-- The value of one hexadecimal digit. -/
def hexDigit? (c : Char) : Option Nat :=
  if '0' ≤ c ∧ c ≤ '9' then some (c.toNat - '0'.toNat)
  else if 'a' ≤ c ∧ c ≤ 'f' then some (c.toNat - 'a'.toNat + 10)
  else if 'A' ≤ c ∧ c ≤ 'F' then some (c.toNat - 'A'.toNat + 10)
  else none

/-- The value of four hexadecimal digits at the front of a text. -/
def fourHex? : List Char → Option Nat
  | a :: b :: c :: d :: _ => do
    let a ← hexDigit? a
    let b ← hexDigit? b
    let c ← hexDigit? c
    let d ← hexDigit? d
    some (((a * 16 + b) * 16 + c) * 16 + d)
  | _ => none

/-- The characters of the short escapes. -/
def shortEscape? (c : Char) : Option Char :=
  match c with
  | '"' => some '"'
  | '\\' => some '\\'
  | '/' => some '/'
  | 'b' => some '\x08'
  | 'f' => some '\x0c'
  | 'n' => some '\n'
  | 'r' => some '\r'
  | 't' => some '\t'
  | _ => none

/-- The first half of a surrogate pair. -/
def isHighSurrogate (n : Nat) : Bool :=
  0xd800 ≤ n && n < 0xdc00

/-- The second half of a surrogate pair. -/
def isLowSurrogate (n : Nat) : Bool :=
  0xdc00 ≤ n && n < 0xe000

/-- The code point of a surrogate pair. -/
def joinSurrogates (high low : Nat) : Nat :=
  0x10000 + (high - 0xd800) * 0x400 + (low - 0xdc00)

/-- The code point that an escape names, from the text after its letter `u`, with the text after
the escape. Two escapes in a row that form a surrogate pair name one code point. The digits may
not be the last characters of the text, since a quote has to follow. -/
def codePoint (s : List Char) : Except Fault (Nat × List Char) :=
  let refused := Except.error ⟨Complaint.invalidCodePoint, s.length + 1⟩
  if s.length ≤ 4 then refused
  else match fourHex? s with
    | none => refused
    | some n =>
      let rest := s.drop 4
      match rest with
      | '\\' :: 'u' :: more =>
        if isHighSurrogate n && 4 < more.length then
          match fourHex? more with
          | none => .error ⟨.invalidCodePoint, more.length + 1⟩
          | some low =>
            if isLowSurrogate low then .ok (joinSurrogates n low, more.drop 4)
            else .ok (n, rest)
        else .ok (n, rest)
      | _ => .ok (n, rest)

/-- The writing of a string up to its closing quote. The first argument bounds the number of
characters, the second is the number of characters left at the opening quote. -/
def stringBody : Nat → Nat → List Char → Except Fault (List Char × List Char)
  | 0, start, _ => .error ⟨.unterminatedString, start⟩
  | _, start, [] => .error ⟨.unterminatedString, start⟩
  | work + 1, start, c :: s =>
    if c = '"' then .ok ([], s)
    else if c = '\\' then
      match s with
      | [] => .error ⟨.unterminatedString, start⟩
      | 'u' :: s' => do
        let (n, rest) ← codePoint s'
        let (body, rest) ← stringBody work start rest
        .ok (Text.written n ++ body, rest)
      | e :: s' =>
        match shortEscape? e with
        | none => refuse .invalidEscape (c :: s)
        | some ch => do
          let (body, rest) ← stringBody work start s'
          .ok (ch :: body, rest)
    else if c.toNat < 0x20 then refuse .controlCharacter (c :: s)
    else do
      let (body, rest) ← stringBody work start s
      .ok (Text.written c.toNat ++ body, rest)

/-- A string, from the text after its opening quote. -/
def string (s : List Char) : Except Fault (String × List Char) := do
  let (body, rest) ← stringBody (s.length + 1) (s.length + 1) s
  .ok (String.ofList body, rest)

/-! ### Numbers -/

/-- The digits at the front of a text, and the rest. -/
def digitRun (s : List Char) : List Char × List Char :=
  (s.takeWhile Char.isDigit, s.dropWhile Char.isDigit)

/-- The value of a run of digits. -/
def digitsValue (s : List Char) : Nat :=
  s.foldl (fun n c ↦ 10 * n + (c.toNat - '0'.toNat)) 0

/-- A fraction: a point with at least one digit after it. -/
def fraction? : List Char → Option (List Char × List Char)
  | '.' :: s =>
    let (digits, rest) := digitRun s
    if digits.isEmpty then none else some (digits, rest)
  | _ => none

/-- An exponent: its letter, an optional sign, and at least one digit. -/
def exponent? : List Char → Option (Int × List Char)
  | c :: s =>
    if c = 'e' || c = 'E' then
      let (negative, s) := match s with
        | '-' :: s => (true, s)
        | '+' :: s => (false, s)
        | s => (false, s)
      let (digits, rest) := digitRun s
      if digits.isEmpty then none
      else
        let n : Int := digitsValue digits
        some (if negative then -n else n, rest)
    else none
  | [] => none

/-- A number. Its whole part has no zero in front of other digits. -/
def number (s : List Char) : Except Fault (Value × List Char) :=
  let (negative, body) := match s with
    | '-' :: body => (true, body)
    | body => (false, body)
  let (whole, rest) := match body with
    | '0' :: rest => (['0'], rest)
    | body => digitRun body
  if whole.isEmpty then refuse .valueExpected s
  else
    let fraction := fraction? rest
    let (decimals, rest) := fraction.getD ([], rest)
    let exponent := exponent? rest
    let (power, rest) := exponent.getD (0, rest)
    let digits := digitsValue (whole ++ decimals)
    if fraction.isSome || exponent.isSome then
      .ok (.float (.ofDecimal negative digits (power - decimals.length)), rest)
    else .ok (.int (if negative then -(digits : Int) else digits), rest)

/-! ### Values -/

/-- The words that stand for values. -/
def wordValues : List (List Char × Value) := [
  ("null".toList, .null), ("true".toList, .bool true), ("false".toList, .bool false),
  ("NaN".toList, .float .nan), ("Infinity".toList, .float (.infinite false)),
  ("-Infinity".toList, .float (.infinite true))]

/-- A word or a number. -/
def plain (s : List Char) : Except Fault (Value × List Char) :=
  match wordValues.find? fun entry ↦ entry.1.isPrefixOf s with
  | some (word, v) => .ok (v, s.drop word.length)
  | none => number s

mutual

/-- A value of any kind. -/
def value : Nat → List Char → Except Fault (Value × List Char)
  | 0, s => refuse .valueExpected s
  | work + 1, s =>
    match s with
    | '"' :: rest => do
      let (text, rest) ← string rest
      .ok (.text text, rest)
    | '\x7b' :: rest =>
      match skipSpace rest with
      | '\x7d' :: rest => .ok (.record [], rest)
      | rest => members work [] rest
    | '[' :: rest =>
      match skipSpace rest with
      | ']' :: rest => .ok (.list [], rest)
      | rest => elements work [] rest
    | s => plain s

/-- The elements of a list that is not empty, after those already read, last one first. -/
def elements : Nat → List Value → List Char → Except Fault (Value × List Char)
  | 0, _, s => refuse .valueExpected s
  | work + 1, before, s => do
    let (v, rest) ← value work s
    match skipSpace rest with
    | ']' :: rest => .ok (.list (v :: before).reverse, rest)
    | ',' :: rest => elements work (v :: before) (skipSpace rest)
    | rest => refuse .commaExpected rest

/-- The fields of a record that is not empty, after those already read. -/
def members : Nat → List (String × Value) → List Char → Except Fault (Value × List Char)
  | 0, _, s => refuse .keyExpected s
  | work + 1, before, s =>
    match s with
    | '"' :: rest => do
      let (key, rest) ← string rest
      match skipSpace rest with
      | ':' :: rest => do
        let (v, rest) ← value work (skipSpace rest)
        let fields := Fields.insert key v before
        match skipSpace rest with
        | '\x7d' :: rest => .ok (.record fields, rest)
        | ',' :: rest => members work fields (skipSpace rest)
        | rest => refuse .commaExpected rest
      | rest => refuse .colonExpected rest
    | s => refuse .keyExpected s

end

/-- One value with white space around it, and nothing else. -/
def document (s : List Char) : Except Fault Value := do
  if s.head? = some '\ufeff' then refuse .byteOrderMark s
  let (v, rest) ← value (2 * s.length + 2) (skipSpace s)
  match skipSpace rest with
  | [] => .ok v
  | rest => refuse .extraData rest

/-- Reads a JSON text. -/
def read (text : String) : Except SyntaxError Value :=
  let s := text.toList
  match document s with
  | .ok v => .ok v
  | .error fault => .error (.located s fault.complaint (s.length - fault.left))

end ReportQuery.Json
