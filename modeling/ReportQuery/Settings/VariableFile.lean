import ReportQuery.Record
import ReportQuery.Text.Blank

/-!
# Files of variables

A file of variables holds one assignment `name=value` a line; blank lines and comments are
skipped, and a line may begin with the word `export`. A value stands bare, up to the end of its
line or to a comment after white space, or in quotes, where it may run over several lines and
escape its quotation mark. A place that is no assignment is skipped up to the end of its line.

Values refer to variables of the environment, and to those assigned before them, by a name in
braces after a dollar sign, with a default after the sign `:-`.
-/

namespace ReportQuery

/-- Variables with the texts they are set to. -/
abbrev Variables := Fields String

namespace VariableFile

open Text

/-! ### Lines -/

/-- A blank that does not end a line. -/
def isSpace (c : Char) : Bool :=
  isBlank c && c ≠ '\n'

/-- What follows the end of the line. -/
def nextLine (s : List Char) : List Char :=
  (s.dropWhile (· ≠ '\n')).drop 1

/-- The rest of a line that holds nothing more than a comment, if that is all it holds. -/
def endLine? (s : List Char) : Option (List Char) :=
  match s.dropWhile isSpace with
  | [] => some []
  | '\n' :: rest => some rest
  | '#' :: rest => some (nextLine rest)
  | _ => none

/-- The text after the word `export` and the blanks behind it, if it begins so. -/
def afterExport (s : List Char) : List Char :=
  let word := "export".toList
  let rest := s.drop word.length
  if word.isPrefixOf s && (rest.head?.map isSpace).getD false then rest.dropWhile isSpace else s

/-! ### Names -/

/-- A character of a bare name. -/
def isNameChar (c : Char) : Bool :=
  c ≠ '=' && c ≠ '#' && !isBlank c

/-- A name, bare or in single quotation marks, and what follows it. -/
def name? : List Char → Option (List Char × List Char)
  | '\'' :: s =>
    match s.span (· ≠ '\'') with
    | ([], _) => none
    | (_, []) => none
    | (name, _ :: rest) => some (name, rest)
  | s =>
    match s.span isNameChar with
    | ([], _) => none
    | split => some split

/-! ### Values -/

/-- The text before the first mark that no backslash stands before, and what follows the mark. -/
def beforeFreeMark? (mark : Char) : List Char → Option (List Char × List Char)
  | [] => none
  | '\\' :: c :: s =>
    if c = mark then (beforeFreeMark? mark s).map fun (body, rest) ↦ ('\\' :: c :: body, rest)
    else (beforeFreeMark? mark (c :: s)).map fun (body, rest) ↦ ('\\' :: body, rest)
  | c :: s =>
    if c = mark then some ([], s)
    else (beforeFreeMark? mark s).map fun (body, rest) ↦ (c :: body, rest)

/-- The text before the last mark, and what follows it. -/
def beforeLastMark? (mark : Char) (s : List Char) : Option (List Char × List Char) :=
  match s.reverse.span (· ≠ mark) with
  | (_, []) => none
  | (after, _ :: before) => some (before.reverse, after.reverse)

/-- A quoted text after its first mark. When every further mark is escaped, the last one ends the
text all the same. -/
def quotedBody? (mark : Char) (s : List Char) : Option (List Char × List Char) :=
  match beforeFreeMark? mark s with
  | some split => some split
  | none => beforeLastMark? mark s

/-- The character that a letter stands for after a backslash. -/
abbrev Escapes := List (Char × Char)

/-- The escapes between single quotation marks. -/
def singleEscapes : Escapes := [('\\', '\\'), ('\'', '\'')]

/-- The escapes between double quotation marks. -/
def doubleEscapes : Escapes := singleEscapes ++ [('"', '"'), ('a', '\x07'), ('b', '\x08'),
  ('f', '\x0c'), ('n', '\n'), ('r', '\r'), ('t', '\t'), ('v', '\x0b')]

/-- The text with its escapes replaced by what they stand for; other backslashes stay. -/
def unescape (escapes : Escapes) : List Char → List Char
  | '\\' :: c :: s =>
    match escapes.lookup c with
    | some d => d :: unescape escapes s
    | none => '\\' :: unescape escapes (c :: s)
  | c :: s => c :: unescape escapes s
  | [] => []

/-- A bare value ends where white space and a comment sign follow. -/
def beforeComment : List Char → List Char
  | [] => []
  | c :: s =>
    if isBlank c && (trimStart s).head? = some '#' then [] else c :: beforeComment s

/-- The value after an assignment sign, and what follows it. The blanks before a bare value count
for the comment that may stand in its place. -/
def value? (s : List Char) : Option (List Char × List Char) :=
  match s.dropWhile isSpace with
  | '\'' :: quoted =>
    (quotedBody? '\'' quoted).map fun (body, rest) ↦ (unescape singleEscapes body, rest)
  | '"' :: quoted =>
    (quotedBody? '"' quoted).map fun (body, rest) ↦ (unescape doubleEscapes body, rest)
  | _ =>
    let (line, rest) := s.span (· ≠ '\n')
    some (trim (beforeComment line), rest)

/-! ### Assignments -/

/-- A name with the value that is assigned to it; a name alone has none. -/
abbrev Assignment := String × Option (List Char)

/-- The assignment or comment in front of a text that does not begin with a blank, and what
follows it; or else the place where it could not be read further. -/
def assignment (s : List Char) : Except (List Char) (Option Assignment × List Char) :=
  let ended (a : Option Assignment) (s : List Char) :=
    match endLine? s with
    | some rest => .ok (a, rest)
    | none => .error s
  let s := afterExport s
  match s with
  | '#' :: _ => ended none s
  | _ =>
    match name? s with
    | none => .error s
    | some (name, rest) =>
      let name := String.ofList name
      match rest.dropWhile isSpace with
      | '=' :: rest =>
        match value? rest with
        | none => .error rest
        | some (v, rest) => ended (some (name, some v)) rest
      | rest => ended (some (name, none)) rest

/-- The assignments of a text, in order. Each reading step takes at least one character, so as
many steps suffice as there are characters. -/
def assignmentsFrom : Nat → List Char → List Assignment
  | 0, _ => []
  | steps + 1, s =>
    match trimStart s with
    | [] => []
    | s =>
      match assignment s with
      | .ok (some a, rest) => a :: assignmentsFrom steps rest
      | .ok (none, rest) => assignmentsFrom steps rest
      | .error rest => assignmentsFrom steps (nextLine rest)

/-- The assignments of a text, in order. -/
def assignments (s : List Char) : List Assignment :=
  assignmentsFrom s.length s

/-! ### References -/

/-- A reference after its opening brace: a name, perhaps with a default, and what follows. -/
def reference? (s : List Char) : Option (List Char × List Char × List Char) :=
  match s.span fun c ↦ c ≠ '\x7d' && c ≠ ':' with
  | (name, '\x7d' :: rest) => some (name, [], rest)
  | (name, ':' :: '-' :: rest) =>
    match rest.span (· ≠ '\x7d') with
    | (fallback, _ :: rest) => some (name, fallback, rest)
    | (_, []) => none
  | _ => none

/-- The text with its references replaced. As many steps suffice as there are characters. -/
def resolveFrom (lookup : String → Option (List Char)) : Nat → List Char → List Char
  | 0, s => s
  | _ + 1, [] => []
  | steps + 1, c :: s =>
    match c, s with
    | '$', '\x7b' :: inner =>
      match reference? inner with
      | some (name, fallback, rest) =>
        (lookup (String.ofList name)).getD fallback ++ resolveFrom lookup steps rest
      | none => c :: resolveFrom lookup steps s
    | _, _ => c :: resolveFrom lookup steps s

/-- The values of the assignments, each with its references to what was set before. A name
without a value is set to nothing. -/
def resolve (environment : Variables) (assigned : List Assignment) : Fields (Option String) :=
  assigned.foldl (fun done (name, v) ↦
    let lookup (n : String) : Option (List Char) :=
      match done.lookup n with
      | some found => some ((found.map String.toList).getD [])
      | none => (environment.lookup n).map String.toList
    Fields.insert name
      (v.map fun s ↦ String.ofList (resolveFrom lookup s.length s)) done) []

/-- The variables that a file names, in an environment. -/
def read (environment : Variables) (text : String) : Fields (Option String) :=
  resolve environment (assignments text.toList)

end VariableFile

end ReportQuery
