import ReportQuery.Scalar

/-!
# Tables keyed by names

A finite table whose keys are names and whose entries keep the order in which their names first
came. A name that is already there keeps its place and its first form.
-/

namespace ReportQuery

/-- Entries keyed by names, in order of insertion. -/
abbrev NameTable (α : Type) := List (Scalar × α)

namespace NameTable

variable {α : Type}

/-- The entry under a name. -/
def find? (name : Scalar) (table : NameTable α) : Option α :=
  (List.find? (fun entry ↦ entry.1.sameName name) table).map (·.2)

/-- The table with an entry for the name: the one it has, or else the given one at the end. -/
def insertNew (name : Scalar) (a : α) (table : NameTable α) : NameTable α :=
  if (find? name table).isSome then table else table ++ [(name, a)]

/-- The table with the entry under the name changed. -/
def modify (name : Scalar) (f : α → α) (table : NameTable α) : NameTable α :=
  table.map fun entry ↦ if entry.1.sameName name then (entry.1, f entry.2) else entry

/-- The names in order. -/
def names (table : NameTable α) : List Scalar :=
  table.map (·.1)

end NameTable

end ReportQuery
