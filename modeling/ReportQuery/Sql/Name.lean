import ReportQuery.Sql.Operand

/-!
# Names

Which texts may stand unquoted in a statement. A plain name consists of basic letters, digits
and underscores and does not start with a digit; a column is a plain name, perhaps after the
plain name of its table and a point. An aggregate is a word and a column between parentheses.
Each of these may have one line feed after it, and an aggregate any white space between its
parts.
-/

namespace ReportQuery.Sql

/-- A letter or the underscore. -/
def isNameStart (c : Char) : Bool :=
  c.isAlpha || c = '_'

/-- A letter, a digit or the underscore. -/
def isNamePart (c : Char) : Bool :=
  c.isAlphanum || c = '_'

/-- A plain name and nothing else. -/
def isPlainName : List Char → Bool
  | c :: cs => isNameStart c && cs.all isNamePart
  | [] => false

/-- A plain name, or two with a point between them, and nothing else. -/
def isPlainColumn (s : List Char) : Bool :=
  match Text.splitAt '.' s with
  | [name] => isPlainName name
  | [table, name] => isPlainName table && isPlainName name
  | _ => false

/-- The text is accepted as the name of a table. -/
def acceptsTable (s : String) : Bool :=
  isPlainName (dropFinalNewline s.toList)

/-- The text is accepted as the name of a column. -/
def acceptsColumn (s : String) : Bool :=
  isPlainColumn (dropFinalNewline s.toList)

/-- A character of a plain column. -/
def isColumnPart (c : Char) : Bool :=
  isNamePart c || c = '.'

/-- The word and the column of a text that has the form of an aggregate. -/
def aggregateParts? (s : List Char) : Option (List Char × List Char) :=
  let s := Text.trimStart s
  let word := s.takeWhile Char.isAlpha
  match Text.trimStart (s.dropWhile Char.isAlpha) with
  | '(' :: rest =>
    let rest := Text.trimStart rest
    let column := rest.takeWhile isColumnPart
    match Text.trimStart (rest.dropWhile isColumnPart) with
    | ')' :: rest =>
      if !word.isEmpty && isPlainColumn column && rest.all Text.isBlank then some (word, column)
      else none
    | _ => none
  | _ => none

end ReportQuery.Sql
