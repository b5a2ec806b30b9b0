/-!
# Tokens of a declaration

The declaration of a column is cut into tokens: words, names in quotation marks, texts, numerals
and single marks. Between them stand blanks and comments. Each token keeps its spelling and the
gap before it, since the type of a column is shown as it is written.
-/

namespace ReportQuery.Catalog

/-- What a token is. A quoted name and a text are kept without their quotation marks. -/
inductive TokenKind where
  | word
  | quotedName (name : List Char)
  | text (content : List Char)
  | octets
  | numeral
  | mark
deriving Repr, DecidableEq

/-- A token, as it is written, with what stands between it and the token before it. -/
structure Token where
  gap : List Char := []
  spelling : List Char
  kind : TokenKind
deriving Repr, DecidableEq

namespace Token

/-! ### Characters -/

/-- A character that may stand between tokens. -/
def isSpace (c : Char) : Bool :=
  c = ' ' || c = '\t' || c = '\n' || c = '\x0c' || c = '\r'

/-- A character that a word may begin with. Every character beyond the basic ones is a letter. -/
def isWordStart (c : Char) : Bool :=
  c.isAlpha || c = '_' || 0x80 ≤ c.toNat

/-- A character of a word. -/
def isWordChar (c : Char) : Bool :=
  isWordStart c || c.isDigit || c = '$'

/-- A digit of a number to the base sixteen. -/
def isHexDigit (c : Char) : Bool :=
  c.isDigit || ('a' ≤ c && c ≤ 'f') || ('A' ≤ c && c ≤ 'F')

/-- A character that is a token of its own. -/
def isMark (c : Char) : Bool :=
  "(),+-*/%=<>!|&~.".toList.contains c

/-! ### Gaps -/

/-- The text after the blanks and comments in front of it, outside a comment or inside one. -/
def afterGap (inComment : Bool) : List Char → List Char
  | '*' :: '/' :: s => if inComment then afterGap false s else '*' :: '/' :: s
  | '/' :: '*' :: s => if inComment then afterGap true ('*' :: s) else afterGap true s
  | c :: s => if inComment || isSpace c then afterGap inComment s else c :: s
  | [] => []

/-! ### Parts of tokens -/

/-- The text up to the closing mark, where a doubled mark stands for itself, and what follows
the mark. -/
def quoted? (mark : Char) : List Char → Option (List Char × List Char)
  | [] => none
  | c :: s =>
    if c = mark then
      match s with
      | [] => some ([], [])
      | d :: s =>
        if d = mark then (quoted? mark s).map fun (body, rest) ↦ (mark :: body, rest)
        else some ([], d :: s)
    else (quoted? mark s).map fun (body, rest) ↦ (c :: body, rest)

/-- The text up to a closing bracket, and what follows the bracket. -/
def bracketed? (s : List Char) : Option (List Char × List Char) :=
  match s.span (· ≠ ']') with
  | (body, _ :: rest) => some (body, rest)
  | (_, []) => none

/-- What follows the digits of an exponent, if a text begins with an exponent. -/
def afterExponent (s : List Char) : List Char :=
  let digits? (s : List Char) : Option (List Char) :=
    if (s.head?.map Char.isDigit).getD false then some (s.dropWhile Char.isDigit) else none
  match s with
  | 'e' :: '+' :: rest | 'e' :: '-' :: rest | 'e' :: rest
  | 'E' :: '+' :: rest | 'E' :: '-' :: rest | 'E' :: rest => (digits? rest).getD s
  | _ => s

/-- What follows the numeral that a text begins with. A word does not follow directly. -/
def afterNumeral? (s : List Char) : Option (List Char) :=
  let rest := match s with
    | '0' :: 'x' :: s | '0' :: 'X' :: s => s.dropWhile isHexDigit
    | s =>
      match s.dropWhile Char.isDigit with
      | '.' :: s => afterExponent (s.dropWhile Char.isDigit)
      | s => afterExponent s
  if (rest.head?.map isWordChar).getD false then none else some rest

/-! ### Tokens -/

/-- The kind of the token that a text begins with, and what follows it. -/
def kind? (s : List Char) : Option (TokenKind × List Char) :=
  match s with
  | [] => none
  | '-' :: '-' :: _ => none
  | '\'' :: s => (quoted? '\'' s).map fun (body, rest) ↦ (.text body, rest)
  | '"' :: s => (quoted? '"' s).map fun (body, rest) ↦ (.quotedName body, rest)
  | '\x60' :: s => (quoted? '\x60' s).map fun (body, rest) ↦ (.quotedName body, rest)
  | '[' :: s => (bracketed? s).map fun (body, rest) ↦ (.quotedName body, rest)
  | 'x' :: '\'' :: s | 'X' :: '\'' :: s =>
    match s.span isHexDigit with
    | (digits, '\'' :: rest) => if digits.length % 2 = 0 then some (.octets, rest) else none
    | _ => none
  | c :: s =>
    if isWordStart c then some (.word, s.dropWhile isWordChar)
    else if c.isDigit || (c = '.' && (s.head?.map Char.isDigit).getD false) then
      (afterNumeral? (c :: s)).map (.numeral, ·)
    else if isMark c then some (.mark, s)
    else none

/-- The tokens of a text, provided that all of it can be read. Each token takes at least one
character, so as many steps suffice as there are characters. -/
def readFrom? : Nat → List Char → Option (List Token)
  | steps, s =>
    let start := afterGap false s
    match start, steps with
    | [], _ => some []
    | _, 0 => none
    | start, steps + 1 => do
      let (kind, rest) ← kind? start
      let further ← readFrom? steps rest
      return { gap := s.take (s.length - start.length)
               spelling := start.take (start.length - rest.length), kind } :: further

/-- The tokens of a text, provided that all of it can be read. -/
def read? (s : List Char) : Option (List Token) :=
  readFrom? s.length s

/-! ### Reading tokens -/

/-- What a token stands for in the grammar: a word in upper case or a mark. The other tokens stand
for nothing but themselves. -/
def symbol (t : Token) : String :=
  match t.kind with
  | .word | .mark => String.ofList (t.spelling.map Char.toUpper)
  | _ => ""

end Token

end ReportQuery.Catalog
