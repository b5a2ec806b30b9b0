import ReportQuery.Catalog.Token

/-!
# Declarations of columns

What stands behind the name of a column in the definition of a table: its type, which may be left
open, and clauses that say more about it. The type is a run of words, perhaps with one or two
numbers in round brackets; it ends at the first word that the grammar keeps for itself. Among the
clauses are the primary key, references to other tables, and values that are computed.
-/

namespace ReportQuery.Catalog

/-- What a clause says about its column. -/
inductive ColumnClause where
  | primaryKey (descending numbered : Bool)
  | references (table : String) (columns : List String)
  | default
  | generated
  | collation (name : String)
  /-- A clause that nothing else depends on. -/
  | other
deriving Repr, DecidableEq

/-- A declaration: the type as it is written, and the clauses. -/
structure Declaration where
  type : String := ""
  clauses : List ColumnClause := []
deriving Repr, DecidableEq

namespace Declaration

/-! ### Words of the grammar -/

/-- The words that are no names. -/
def reserved : List String := [
  "ADD", "ALL", "ALTER", "AND", "AS", "AUTOINCREMENT", "BETWEEN", "CASE", "CHECK", "COLLATE",
  "COMMIT", "CONSTRAINT", "CREATE", "CROSS", "DEFAULT", "DEFERRABLE", "DELETE", "DISTINCT",
  "DROP", "ELSE", "ESCAPE", "EXCEPT", "EXISTS", "FOREIGN", "FROM", "FULL", "GROUP", "HAVING",
  "IN", "INDEX", "INDEXED", "INNER", "INSERT", "INTERSECT", "INTO", "IS", "ISNULL", "JOIN",
  "LEFT", "LIMIT", "NATURAL", "NOT", "NOTHING", "NOTNULL", "NULL", "ON", "OR", "ORDER", "OUTER",
  "PRIMARY", "REFERENCES", "RETURNING", "RIGHT", "SELECT", "SET", "TABLE", "THEN", "TO",
  "TRANSACTION", "UNION", "UNIQUE", "UPDATE", "USING", "VALUES", "WHEN", "WHERE"]

/-- The reserved words that are names all the same where only a name can stand. -/
def reservedNames : List String :=
  ["CROSS", "FULL", "INDEXED", "INNER", "LEFT", "NATURAL", "OUTER", "RIGHT"]

/-- The tokens behind the given words and marks, if the tokens begin with them. -/
def skip? : List String → List Token → Option (List Token)
  | [], ts => some ts
  | _ :: _, [] => none
  | w :: ws, t :: ts => if t.symbol = w then skip? ws ts else none

/-- The tokens behind the given words, or all tokens if they do not begin with them. -/
def skip (words : List String) (ts : List Token) : List Token :=
  (skip? words ts).getD ts

/-- The name that a token is, if it is a name or a text. -/
def nameOf? (t : Token) (further : List String) : Option String :=
  match t.kind with
  | .word =>
    if reserved.contains t.symbol && !further.contains t.symbol then none
    else some (String.ofList t.spelling)
  | .quotedName name => some (String.ofList name)
  | .text content => some (String.ofList content)
  | .octets | .numeral | .mark => none

/-- A name. -/
def name? : List Token → Option (String × List Token)
  | [] => none
  | t :: ts => (nameOf? t reservedNames).map (·, ts)

/-- A number, perhaps with a sign. -/
def number? (ts : List Token) : Option (List Token) :=
  match (skip? ["+"] ts).getD (skip ["-"] ts) with
  | ⟨_, _, .numeral⟩ :: rest => some rest
  | _ => none

/-- The tokens behind the closing bracket that belongs to the given number of open ones, and
whether any token stands before it. -/
def closed? : Nat → List Token → Option (List Token)
  | _, [] => none
  | depth, t :: ts =>
    match t.symbol, depth with
    | "(", depth => closed? (depth + 1) ts
    | ")", 0 => some ts
    | ")", depth + 1 => closed? depth ts
    | _, depth => closed? depth ts

/-- The tokens behind an expression in round brackets. An expression is not looked into, only
that it is there. -/
def expression? (ts : List Token) : Option (List Token) := do
  let inside ← skip? ["("] ts
  if (skip? [")"] inside).isSome then none else closed? 0 inside

/-! ### Types -/

/-- The words of a type. -/
def typeWords (ts : List Token) : List Token × List Token :=
  ts.span fun t ↦ (nameOf? t []).isSome

/-- The tokens behind the sizes of a type. -/
def afterSizes? (ts : List Token) : Option (List Token) :=
  match skip? ["("] ts with
  | none => some ts
  | some inside => do
    let rest ← number? inside
    match skip? [","] rest with
    | some second => skip? [")"] (← number? second)
    | none => skip? [")"] rest

/-- Tokens as they are written, without what stands before the first of them. -/
def written : List Token → List Char
  | [] => []
  | t :: ts => t.spelling ++ ts.flatMap fun u ↦ u.gap ++ u.spelling

/-- The text inside quotation marks that a text begins with, or else the text. -/
def unquoted (s : List Char) : List Char :=
  match Token.kind? s with
  | some (.quotedName name, _) => name
  | some (.text content, _) => content
  | _ => s

/-- The words of a type without those that only announce a computed value. -/
def withoutAnnouncement (words : List Token) : List Token :=
  match words.reverse with
  | always :: generated :: before =>
    if always.symbol = "ALWAYS" && generated.symbol = "GENERATED" then before.reverse else words
  | _ => words

/-- The type that tokens begin with. Sizes do not stand without words. -/
def type? (ts : List Token) : Option (String × List Token) :=
  match typeWords ts with
  | ([], rest) => some ("", rest)
  | (words, rest) => do
    let behind ← afterSizes? rest
    let sizes := rest.take (rest.length - behind.length)
    let shown := if sizes.isEmpty then withoutAnnouncement words else words ++ sizes
    return (String.ofList (unquoted (written shown)), behind)

/-! ### Clauses -/

/-- What is done on a conflict, if it is said. -/
def afterConflict? (ts : List Token) : Option (List Token) :=
  match skip? ["ON", "CONFLICT"] ts with
  | none => some ts
  | some [] => none
  | some (t :: rest) =>
    if ["ROLLBACK", "ABORT", "FAIL", "IGNORE", "REPLACE"].contains t.symbol then some rest
    else none

/-- The names between round brackets, separated by commas, after the first bracket. -/
def names? : Nat → List Token → Option (List String × List Token)
  | 0, _ => none
  | steps + 1, ts => do
    let (name, rest) ← name? ts
    match skip? [","] rest with
    | some rest => do
      let (further, rest) ← names? steps rest
      return (name :: further, rest)
    | none => return ([name], ← skip? [")"] rest)

/-- What happens to a row whose referenced row is changed. -/
def afterAction? (ts : List Token) : Option (List Token) :=
  [["SET", "NULL"], ["SET", "DEFAULT"], ["CASCADE"], ["RESTRICT"], ["NO", "ACTION"]].findSome?
    (skip? · ts)

/-- What is said about changes of the referenced row. -/
def afterActions? : Nat → List Token → Option (List Token)
  | 0, ts => some ts
  | steps + 1, ts =>
    match [["ON", "DELETE"], ["ON", "UPDATE"], ["ON", "INSERT"]].findSome? (skip? · ts) with
    | some rest => do afterActions? steps (← afterAction? rest)
    | none =>
      match skip? ["MATCH"] ts with
      | some rest => do
        let (_, rest) ← name? rest
        afterActions? steps rest
      | none => some ts

/-- A reference to another table, after its first word. -/
def references? (ts : List Token) : Option (ColumnClause × List Token) := do
  let (table, rest) ← name? ts
  let (columns, rest) ← match skip? ["("] rest with
    | some inside => names? inside.length inside
    | none => some ([], rest)
  return (.references table columns, ← afterActions? rest.length rest)

/-- The value of a column that is given none, after the first word. -/
def default? (ts : List Token) : Option (List Token) :=
  match expression? ts, number? ts, ts with
  | some rest, _, _ => some rest
  | none, some rest, _ => some rest
  | none, none, t :: rest =>
    if t.symbol = "NULL" || t.kind = .octets || (nameOf? t ["INDEXED"]).isSome then some rest
    else none
  | none, none, [] => none

/-- A computed value, after its first words. -/
def computed? (ts : List Token) : Option (List Token) := do
  let rest ← expression? ts
  return (skip? ["STORED"] rest).getD (skip ["VIRTUAL"] rest)

/-- A primary key, after its first words. -/
def primaryKey? (ts : List Token) : Option (ColumnClause × List Token) := do
  let descending := (skip? ["DESC"] ts).isSome
  let rest ← afterConflict? (skip ["DESC"] (skip ["ASC"] ts))
  let numbered := (skip? ["AUTOINCREMENT"] rest).isSome
  return (.primaryKey descending numbered, skip ["AUTOINCREMENT"] rest)

/-- When a reference is checked, if it is said. -/
def afterInitially (ts : List Token) : List Token :=
  (skip? ["INITIALLY", "DEFERRED"] ts).getD (skip ["INITIALLY", "IMMEDIATE"] ts)

/-- The clauses by the words that they begin with, and how each is read on. -/
def clauseReaders : List (List String × (List Token → Option (ColumnClause × List Token))) :=
  let plain (after : List Token → Option (List Token)) (c : ColumnClause) (ts : List Token) :=
    (after ts).map (c, ·)
  [ (["CONSTRAINT"], fun ts ↦ (name? ts).map fun (_, rest) ↦ (.other, rest)),
    (["PRIMARY", "KEY"], primaryKey?),
    (["NOT", "NULL"], plain afterConflict? .other),
    (["NULL"], plain afterConflict? .other),
    (["UNIQUE"], plain afterConflict? .other),
    (["CHECK"], plain expression? .other),
    (["DEFAULT"], plain default? .default),
    (["COLLATE"], fun ts ↦ do
      let t ← ts.head?
      return (.collation (← nameOf? t []), ts.tail)),
    (["REFERENCES"], references?),
    (["NOT", "DEFERRABLE"], fun ts ↦ some (.other, afterInitially ts)),
    (["DEFERRABLE"], fun ts ↦ some (.other, afterInitially ts)),
    (["GENERATED", "ALWAYS", "AS"], plain computed? .generated),
    (["AS"], plain computed? .generated) ]

/-- The clause that tokens begin with. -/
def clause? (ts : List Token) : Option (ColumnClause × List Token) := do
  let (read, rest) ← clauseReaders.findSome? fun (words, read) ↦ (skip? words ts).map (read, ·)
  read rest

/-- The clauses that tokens consist of. Each takes at least one token, so as many steps suffice as
there are tokens. -/
def clauses? : Nat → List Token → Option (List ColumnClause)
  | _, [] => some []
  | 0, _ => none
  | steps + 1, ts => do
    let (clause, rest) ← clause? ts
    return clause :: (← clauses? steps rest)

/-- A declaration, if the text is one. -/
def read? (text : String) : Option Declaration := do
  let tokens ← Token.read? text.toList
  let (type, rest) ← type? tokens
  return { type, clauses := ← clauses? rest.length rest }

end Declaration

end ReportQuery.Catalog
