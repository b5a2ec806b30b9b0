import ReportQuery.Catalog.Basic
import ReportQuery.CommandLine.Arguments
import ReportQuery.CommandLine.Console
import ReportQuery.Report.Execution
import ReportQuery.Request.Decode

/-!
# Previewing reports

The command reads a request from a file, compiles it, and shows its joins, its statement and what
the statement leaves out. It may also run the statement and show the first rows. The engine of
the database is asked for only when the relations or the rows come from it.

A run ends with an exit code, or breaks off when something goes wrong that no message is made
for. It shows what it has got so far in either case. The console may be what goes wrong: a run
breaks off at the first thing that its console does not take, an error message perhaps.
-/

namespace ReportQuery.CommandLine

/-- Why a run breaks off. -/
inductive Breakdown where
  | notUtf8
  | graphNotNamed
  | columnMissing
  | foreign (text : String)
  | console (fault : String)
deriving Repr, DecidableEq

/-- How a run ends. -/
inductive Ending where
  | code (n : Nat)
  | broken (reason : Breakdown)
deriving Repr, DecidableEq

/-- What a run asks of its surroundings. -/
inductive Access where
  | engine
  | database (access : DatabaseAccess)

/-- A run: how it ends, what it shows, what it asks for, and what it reports. -/
structure Run where
  ending : Ending
  shown : List Shown := []
  trace : List Access := []
  log : List LogEntry := []

/-- What the command runs in: files, a database with its catalog, the console, and the words for
documents that are no requests. -/
structure Surroundings where
  directory : Directory
  database : Database := {}
  catalog : Catalog := {}
  console : Console := {}
  faultReport : Request.FaultReport := Request.headline

namespace Run

/-- A run that breaks off. -/
def broken (reason : Breakdown) : Run where
  ending := .broken reason

/-- The run after these things are shown. Where the console does not take one of them, nothing
follows. -/
def showing (console : Console) : List Shown → Run → Run
  | [], r => r
  | item :: items, r =>
    match console.fault item with
    | some fault => .broken (.console fault)
    | none =>
      let rest := showing console items r
      { rest with shown := item :: rest.shown }

/-- A run that shows a framed error and ends. -/
def refused (console : Console) (title message : String) : Run :=
  showing console [.error title message] { ending := .code 1 }

/-- The run with more in front of what it asks for. -/
def asking (trace : List Access) (r : Run) : Run :=
  { r with trace := trace ++ r.trace }

/-- The run with more in front of what it reports. -/
def reporting (log : List LogEntry) (r : Run) : Run :=
  { r with log := log ++ r.log }

end Run

/-! ### Showing a report -/

/-- The tables that a report joins. -/
def showJoins (plan : JoinPlan) : Shown :=
  if plan.joins.isEmpty then .success ("Single table report: " ++ plan.base)
  else .success ("Joins resolved: " ++ " → ".intercalate plan.included)

/-- The statement of a report. -/
def showStatement (sql : String) : Shown :=
  .frame sql (Shown.styled "bold yellow" "Compiled SQL") "yellow"

/-- What a statement leaves out, if it leaves anything out. -/
def showDropped (dropped : List Dropped) : List Shown :=
  if dropped.isEmpty then []
  else [.table ["Kind", "Subject", "Reason"]
    (Shown.styled "bold yellow" "Dropped from the statement")
    (dropped.map fun d ↦ [word d.kind, d.subject, d.reason])]

/-- Everything that is shown of a compiled report. -/
def showReport (c : CompiledReport) : List Shown :=
  [showJoins c.plan, .blank, showStatement c.sql] ++ showDropped c.dropped

/-! ### Showing rows -/

/-- How many rows are shown at most. -/
def shownRows : Nat := 50

/-- The text of a cell. -/
def cellText : Cell → String
  | .value .null => "NULL"
  | .value v => v.display
  | .object o => o.text

/-- The texts of a row under the given columns, provided that it has them all. -/
def rowTexts? (columns : List String) (row : Row) : Option (List String) :=
  columns.mapM fun column ↦ (row.lookup column).map cellText

/-- The first rows of a result, provided that each has all columns. -/
def showRows? (result : ResultSet) : Option (List Shown) :=
  let count := toString result.rows.length
  if result.rows.isEmpty then some [.line (Shown.styled "dim" "No results found.")]
  else
    ((result.rows.take shownRows).mapM (rowTexts? result.columns)).map fun rows ↦
      (if result.rows.length > shownRows then
        [.line (Shown.styled "dim" ("(Showing first " ++ toString shownRows ++ " of " ++ count ++
          " rows)"))]
      else []) ++
      [.table result.columns (Shown.styled "bold cyan" ("Results (" ++ count ++ " rows)")) rows]

/-- The end of a run whose statement was run. -/
def ofOutcome (console : Console) : Except ExecutionError ResultSet → Run
  | .error (.failed kind) =>
    .refused console "Execution Error" (ExecutionError.failed kind).message
  | .error (.foreign text) => .broken (.foreign text)
  | .ok result =>
    match showRows? result with
    | some shown => Run.showing console (.blank :: shown) { ending := .code 0 }
    | none => Run.showing console [.blank] (.broken .columnMissing)

/-- Runs the statement of a report. -/
def runReport (console : Console) (db : Database) (c : CompiledReport) : Run :=
  let run := c.parts.execute .engine db
  Run.showing console [.status (Shown.styled "bold cyan" "Executing query...")] <|
    ((ofOutcome console run.outcome).asking (run.trace.map .database)).reporting run.log

/-! ### The command -/

/-- The request in a file, or the run that ends without one. -/
def readRequest (around : Surroundings) (path : String) : Except Run Request :=
  match File.readDocument around.directory path with
  | .error .notUtf8 => .error (.broken .notUtf8)
  | .error fault => .error (.refused around.console "Invalid Request" fault.message)
  | .ok document =>
    (Request.ofValue document).mapError fun faults ↦
      .refused around.console "Invalid Request" (around.faultReport (some document) faults)

/-- The end of a run without a relation graph. -/
def ofLoadError (console : Console) : Relation.LoadError → Run
  | .unreadable _ .notUtf8 => .broken .notUtf8
  | .rowNotRecord | .tableNotNamed => .broken .graphNotNamed
  | e => .refused console "Compilation Error" e.message

/-- Compiles a request with a relation graph, shows it, and runs it if that is asked for. -/
def previewWith (execute : Bool) (around : Surroundings) (request : Request)
    (graph : Relation.Graph) : Run :=
  let compiled := Compiler.compileLogged { graph } request
  Run.reporting compiled.log <|
    match compiled.value with
    | .error e => .refused around.console "Compilation Error" e.message
    | .ok c => Run.showing around.console (showReport c) <|
      if execute then runReport around.console around.database c else { ending := .code 0 }

/-- Runs the command. -/
def preview (a : Arguments) (around : Surroundings) : Run :=
  match readRequest around a.request with
  | .error run => run
  | .ok request =>
    let supplies : Relation.Supplies :=
      { directory := around.directory, path := a.graphPath
        catalog := some fun _ ↦ around.catalog.rows }
    let graph := Relation.load (.text (word a.source)) supplies
    let run := match graph.value with
      | .error e => ofLoadError around.console e
      | .ok graph => previewWith a.execute around request graph
    (run.reporting graph.log).asking
      (if a.execute || a.source = .catalog then [.engine] else [])

end ReportQuery.CommandLine
