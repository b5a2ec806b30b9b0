/-!
# Log entries

What an operation reports besides its result, as data: each entry has a level, the component
that speaks, and a text. An operation that reports returns its entries beside its value, in the
order in which they arise.
-/

namespace ReportQuery

/-- How much an entry matters. -/
inductive LogLevel where
  | debug | info | warning | error
deriving Repr, DecidableEq

/-- Who speaks. -/
inductive LogComponent where
  | relations | joins | compiler | cache | catalog | execution
deriving Repr, DecidableEq

/-- One entry of a log. -/
structure LogEntry where
  level : LogLevel
  component : LogComponent
  text : String
deriving Repr, DecidableEq

/-- A value with the entries that arose on the way to it. -/
structure Logged (α : Type) where
  value : α
  log : List LogEntry := []

namespace Logged

variable {α β : Type}

/-- The value of a second operation, with the entries of both. -/
def andThen (a : Logged α) (f : α → Logged β) : Logged β :=
  let b := f a.value
  { value := b.value, log := a.log ++ b.log }

/-- The function of the value, with the same entries. -/
def map (f : α → β) (a : Logged α) : Logged β :=
  { value := f a.value, log := a.log }

end Logged

end ReportQuery
