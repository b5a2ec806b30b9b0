import ReportQuery.DatabaseUse
import ReportQuery.Report.Compiled

/-!
# Running reports

The statement of a report is handed to a database as it is, without parameters, so that nothing
in its literals is taken for a placeholder. A run is what comes of this use of the database
(`Database.use`), told in the words of the report.

A failure that the database reports is told by its kind alone, since its text may show what the
database holds. Any other failure is passed on unchanged.
-/

namespace ReportQuery

/-- Why a report has no rows. -/
inductive ExecutionError where
  | failed (kind : String)
  | foreign (text : String)
deriving Repr, DecidableEq

namespace ExecutionError

/-- The wording of an error. -/
def message : ExecutionError → String
  | .failed kind => "Query execution failed: " ++ kind
  | .foreign text => text

/-- What becomes of a failure of the database. -/
def ofFault : DatabaseFault → ExecutionError
  | .reported kind _ => .failed kind
  | .foreign text => .foreign text

end ExecutionError

/-- A run: its outcome, what it did to the database, and what it reports. -/
structure Execution where
  outcome : Except ExecutionError ResultSet
  trace : List DatabaseAccess
  log : List LogEntry := []

namespace Execution

/-- What a failure of a statement reports. -/
def failureLog (statement : Statement) : DatabaseFault → List LogEntry
  | .reported kind _ =>
    [⟨.error, .execution, "Report query failed (" ++ kind ++ "):\n" ++ statement.text⟩]
  | .foreign _ => []

/-- The run that a use of a database amounts to. -/
def ofUse (statement : Statement) (use : DatabaseUse ResultSet) : Execution where
  outcome := use.outcome.mapError ExecutionError.ofFault
  trace := use.trace
  log := match use.outcome with
    | .ok _ => []
    | .error fault => failureLog statement fault

/-- Runs a statement. -/
def ofStatement (statement : Statement) (db : Database) (binding : Binding) : Execution :=
  ofUse statement (db.use statement binding)

end Execution

/-- Runs the statement of a report. -/
def QueryParts.execute (p : QueryParts) (binding : Binding) (db : Database) : Execution :=
  .ofStatement { text := p.sql } db binding

end ReportQuery
