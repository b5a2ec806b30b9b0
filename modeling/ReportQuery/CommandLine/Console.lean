import ReportQuery.Text.Basic

/-!
# What the command shows

The command prints lines, framed texts and tables, one after the other. Texts carry marks for
style between square brackets, as a terminal may render them; nothing is escaped, so brackets
that stand in a message are taken for marks as well.

What is shown is handed to a console, which need not take it: it may find that the marks of a
text do not match, or that the text cannot be written in its encoding. What it takes is left open.
-/

namespace ReportQuery.CommandLine

/-- One thing that is shown. -/
inductive Shown where
  | blank
  | line (text : String)
  | frame (text title border : String)
  | table (columns : List String) (title : String) (rows : List (List String))
  | status (text : String)
deriving Repr, DecidableEq

namespace Shown

/-- A text in a style. -/
def styled (style text : String) : String :=
  "[" ++ style ++ "]" ++ text ++ "[/" ++ style ++ "]"

/-- A framed error. -/
def error (title message : String) : Shown :=
  .frame (styled "red" message) (styled "bold red" title) "red"

/-- A line that says that something went well. -/
def success (text : String) : Shown :=
  .line (styled "green" "✓" ++ " " ++ text)

end Shown

/-- A console, by the failure of its own that it meets each thing with that it does not take. -/
structure Console where
  fault : Shown → Option String := fun _ ↦ none

end ReportQuery.CommandLine
