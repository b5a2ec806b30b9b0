import ReportQuery.Database

/-!
# Uses of a database

A use of a database comes to something or fails, and leaves a trace of accesses. Uses are made of
single accesses: one after another, as long as none fails, and on a connection of their own, which
is closed again whatever comes of the use.

What a statement comes to is put together in this way. The rows are fetched one by one, and a
failure to fetch them may come after any of them; those that came before are not kept.
-/

namespace ReportQuery

/-- A use of a database: what comes of it, and what it does to the database. -/
structure DatabaseUse (α : Type) where
  outcome : Except DatabaseFault α
  trace : List DatabaseAccess

namespace DatabaseUse

variable {α β : Type}

/-- One access, with the failure that it meets. -/
def access (a : DatabaseAccess) (failure : Option DatabaseFault) : DatabaseUse Unit where
  outcome := match failure with
    | none => .ok ()
    | some fault => .error fault
  trace := [a]

/-- A use after another one, unless that one fails. -/
def andThen (u : DatabaseUse α) (next : α → DatabaseUse β) : DatabaseUse β :=
  match u.outcome with
  | .error fault => { outcome := .error fault, trace := u.trace }
  | .ok a => { outcome := (next a).outcome, trace := u.trace ++ (next a).trace }

/-- A use on a connection of its own, which is closed again whatever comes of the use. -/
def onOwnConnection (failure : Option DatabaseFault) (u : DatabaseUse α) : DatabaseUse α :=
  (access .connect failure).andThen fun _ ↦ { u with trace := u.trace ++ [.close] }

/-- Fetches the rows that are left, beside the records of those that came already. A failure to
fetch comes after the last row. -/
def fetchFrom (columns : List String) (failure : Option DatabaseFault) (done : List Row) :
    List (List Cell) → Except DatabaseFault (List Row)
  | [] => match failure with
    | none => .ok done
    | some fault => .error fault
  | cells :: rest => fetchFrom columns failure (done ++ [Database.record columns cells]) rest

end DatabaseUse

/-- What a report is run on. -/
inductive Binding where
  | connection | engine
deriving Repr, DecidableEq

namespace Database

/-- Executes a statement on an open connection and fetches its rows. -/
def onConnection (db : Database) (statement : Statement) : DatabaseUse ResultSet :=
  (DatabaseUse.access (.execute statement) db.onExecute).andThen fun _ ↦
    { outcome := (DatabaseUse.fetchFrom db.columns db.onFetch [] db.rows).map fun rows ↦
        { columns := db.columns, rows }
      trace := [] }

/-- The use that running a statement makes of a database. On an engine a connection is opened for
it; an open connection is left as it is. -/
def use (db : Database) (statement : Statement) : Binding → DatabaseUse ResultSet
  | .connection => db.onConnection statement
  | .engine => .onOwnConnection db.onConnect (db.onConnection statement)

end Database

end ReportQuery
