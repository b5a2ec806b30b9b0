/-!
# LIKE patterns

A pattern for LIKE asks for texts that contain something. A pattern without a percent sign is
therefore surrounded by two; in a pattern that has one already, several percent signs at either
end count as one. A line feed at the very end of a pattern does not hide the percent signs in
front of it.
-/

namespace ReportQuery.Sql

/-- The sign that stands for any text. -/
def anyText : Char := '%'

/-- The text with two or more percent signs at its start reduced to one. -/
def collapseStart : List Char → List Char
  | '%' :: '%' :: s => anyText :: s.dropWhile (· = anyText)
  | s => s

/-- The text with two or more percent signs at its end reduced to one. -/
def collapseBack (s : List Char) : List Char :=
  (collapseStart s.reverse).reverse

/-- The text with two or more percent signs at its end, or in front of a final line feed, reduced
to one. -/
def collapseEnd (s : List Char) : List Char :=
  if s.getLast? = some '\n' then collapseBack s.dropLast ++ ['\n'] else collapseBack s

/-- The pattern that matches the texts which contain what the given pattern asks for. -/
def containsPattern (s : List Char) : List Char :=
  if anyText ∈ s then collapseEnd (collapseStart s) else anyText :: s ++ [anyText]

end ReportQuery.Sql
