import ReportQuery.Catalog.Cached
import ReportQuery.Http.Document
import ReportQuery.Http.Origin
import ReportQuery.Report.Execution
import ReportQuery.Request.Decode
import ReportQuery.Settings.Basic

/-!
# The report service

The service answers requests for the catalog of a database and for reports on it. It is started
once, with the relation graph that its settings name, and keeps the caches in front of its
catalog from then on; nothing else is kept between two requests.

A report is compiled in the same way whether it is only shown or also run. Whatever prevents an
answer is told in one shape, with a headline of its own for each route; only a failure that
nothing foresaw is not. Nothing foresees that an answer cannot be written: a cell of the database
may have no document, and a text with half of a surrogate pair in it cannot be sent, not even to
tell what is wrong with it.

How the faults of a document are worded, and what is said of a body that is missing or cannot be
read, is left open: the service only passes these texts on. It is left open as well whether a body
that is null counts as missing, since frameworks that hand bodies on differ in that.
-/

namespace ReportQuery

/-- A started service, and what it leaves to others: the words for documents that are no requests,
those for bodies that are missing or cannot be read, and whether null counts as missing. -/
structure Service where
  settings : Settings
  compiler : Compiler
  live : LiveCatalog
  faultReport : Request.FaultReport := Request.headline
  bodyReport : Http.Request → String := fun _ ↦ "1 validation error:"
  nullIsMissing : Bool := false

namespace Service

/-- Starts the service in a directory, on the catalog of its database. -/
def start (settings : Settings) (directory : Directory) (catalog : Catalog) :
    Logged (Except Relation.LoadError Service) :=
  let supplies : Relation.Supplies :=
    { directory, path := settings.graphPath, catalog := some fun _ ↦ catalog.rows }
  (Relation.load (.text (word settings.graphSource)) supplies).map fun graph ↦
    graph.map fun graph ↦
      { settings, compiler := { graph, dateFormat := settings.dateFormat }, live := { catalog } }

/-- The service after a table is created in its database. -/
def create (s : Service) (table : Catalog.TableDefinition) :
    Except Catalog.SchemaError Service :=
  (s.live.catalog.create table).map fun catalog ↦ { s with live := { s.live with catalog } }

/-! ### Routes -/

/-- What a path stands for. -/
inductive Route where
  | health
  | tables
  | attributes (table : String)
  | relatedTables
  | queryReport
  | queryView
deriving Repr, DecidableEq

namespace Route

/-- What stands at exactly this path. -/
def at? (path : List Char) : Option Route :=
  match (Text.splitAt '/' path).map String.ofList with
  | ["", "healthz"] => some .health
  | ["", "tables"] => some .tables
  | ["", "attributes", name] => if name = "" then none else some (.attributes name)
  | ["", "all-related-tables"] => some .relatedTables
  | ["", "query-report"] => some .queryReport
  | ["", "query-to-view"] => some .queryView
  | _ => none

/-- What stands at the path, or at the path without the slashes at its end. -/
def find? (path : List Char) : Option Route :=
  (at? path).or (at? (Http.Path.withoutEndSlash path))

/-- The method that a route answers to. -/
def method : Route → String
  | .queryReport | .queryView => "POST"
  | _ => "GET"

/-- What a failure of a route is called. -/
def failureTitle : Route → String
  | .health => "Failed"
  | .tables => "Failed to load tables"
  | .attributes table => "Failed to load attributes of table " ++ table
  | .relatedTables => "Failed to load table relations"
  | .queryReport => "Failed to generate report"
  | .queryView => "Failed to build query"

end Route

/-! ### Responses -/

/-- A failure as a document: its headline and details. -/
def failureDocument (title details : String) : Value :=
  .record [("error", .text title), ("details", .text details)]

/-- A failure with its headline and details. -/
def failure (title details : String) : Http.Response where
  status := 500
  body := .document (failureDocument title details)

/-- What is answered to a body that is missing or cannot be read. -/
def invalidRequest (s : Service) (r : Http.Request) : Http.Response :=
  failure "Invalid request" (s.bodyReport r)

/-- What was left out, as documents. -/
def droppedDocument (dropped : List Dropped) : Value :=
  .list (dropped.map fun d ↦ .record [("kind", .text (word d.kind)), ("subject", .text d.subject),
    ("reason", .text d.reason)])

/-- The names of tables as documents. -/
def tablesDocument (names : List String) : Value :=
  .list (names.map fun name ↦ .record [("table_name", .text name)])

/-- The columns of a table as documents. -/
def columnsDocument (columns : List Catalog.Column) : Value :=
  .list (columns.map fun c ↦ .record [("column_name", .text c.name), ("type", .text c.typeName)])

/-- Pairs of related tables as documents. -/
def relationsDocument (pairs : List (String × String)) : Value :=
  .list (pairs.map fun (table, related) ↦
    .record [("table_name", .text table), ("related_table", .text related)])

/-- The rows of a report as documents, provided that each has one. -/
def rowsDocument? (rows : List Row) : Option Value :=
  (rows.mapM Row.document?).map .list

/-! ### Answers -/

/-- What a request meets besides the service: the database as it answers now, whether the catalog
can be read, and what the database says when it refuses to look for a table. -/
structure Surroundings where
  database : Database := {}
  catalogFault : Option DatabaseFault := none
  refusal : String → String := fun name ↦ (Catalog.LookupError.nullCharacter name).message

/-- What is told of a failed look-up. The database words its refusals itself. -/
def Surroundings.lookupDetails (around : Surroundings) : Catalog.LookupError → String
  | .nullCharacter name => around.refusal name
  | e => e.message

/-- A response, what was done to the database for it, and the service after it. -/
structure Answer where
  response : Http.Response
  trace : List DatabaseAccess := []
  service : Service

/-- The catalog as it can be read now. -/
def reachable (s : Service) (around : Surroundings) : Except DatabaseFault Catalog :=
  match around.catalogFault with
  | some fault => .error fault
  | none => .ok s.live.catalog

/-- The service with other caches. -/
def withCache (s : Service) (cache : CatalogCache) : Service :=
  { s with live := { s.live with cache } }

/-- The document counts as missing. -/
def countsAsMissing (s : Service) : Value → Bool
  | .null => s.nullIsMissing
  | _ => false

/-- What a route is handed of a request. -/
def contentOf (s : Service) (r : Http.Request) : Http.Content :=
  match r.content with
  | .document v => if s.countsAsMissing v then .missing else .document v
  | content => content

/-- The document of a content. -/
def documentOf : Http.Content → Option Value
  | .document v => some v
  | _ => none

/-- The report request in a content that holds something. -/
def requestIn (content : Http.Content) : Checked Request :=
  match documentOf content with
  | some v => Request.ofValue v
  | none => .fault (.notRecord Request.shape)

/-- The report that a content asks for, or the details of what prevents it. -/
def compiled (s : Service) (content : Http.Content) : Logged (Except String CompiledReport) :=
  match requestIn content with
  | .error faults => { value := .error (s.faultReport (documentOf content) faults) }
  | .ok request => (s.compiler.compileLogged request).map (·.mapError CompileError.message)

/-- The statement of a report and what it leaves out. -/
def viewDocument (c : CompiledReport) : Value :=
  .record [("fullQuery", .text c.sql), ("dropped", droppedDocument c.dropped)]

/-- The rows of a report and what it leaves out. -/
def reportDocument (c : CompiledReport) (rows : Value) : Value :=
  .record [("result", rows), ("dropped", droppedDocument c.dropped)]

/-- The response to a report that was run. That a row has no document is found out when nothing
catches it any more. -/
def reportResponse (c : CompiledReport) (outcome : Except ExecutionError ResultSet) :
    Http.Response :=
  match outcome with
  | .ok result =>
    match rowsDocument? result.rows with
    | some rows => .ok (reportDocument c rows)
    | none => .internalError
  | .error (.failed kind) =>
    failure (Route.failureTitle .queryReport) (ExecutionError.failed kind).message
  | .error (.foreign _) => .internalError

/-- Shows the statement of a report. -/
def answerView (s : Service) (content : Http.Content) : Logged Answer :=
  (s.compiled content).map fun
    | .error details =>
      { response := failure (Route.failureTitle .queryView) details, service := s }
    | .ok c => { response := .ok (viewDocument c), service := s }

/-- Runs a report. -/
def answerReport (s : Service) (around : Surroundings) (content : Http.Content) : Logged Answer :=
  (s.compiled content).andThen fun
    | .error details =>
      { value := { response := failure (Route.failureTitle .queryReport) details, service := s } }
    | .ok c =>
      let run := c.parts.execute .engine around.database
      { value := { response := reportResponse c run.outcome, trace := run.trace, service := s }
        log := run.log }

/-- The response to a reading of the catalog. -/
def catalogResponse {α : Type} (route : Route) (document : α → Value)
    (outcome : Except DatabaseFault α) : Http.Response :=
  match outcome with
  | .ok a => .ok (document a)
  | .error fault => failure route.failureTitle fault.text

/-- Answers a request whose path and method are known. A report is looked at only when there is
a body and it can be read. -/
def answerRoute (s : Service) (around : Surroundings) (r : Http.Request) (route : Route) :
    Logged Answer :=
  let plainly (response : Http.Response) : Logged Answer := { value := { response, service := s } }
  match route with
  | .health =>
    plainly (.ok (.record [("status", .text "ok"),
      ("environment", .text s.settings.environment)]))
  | .tables =>
    (s.live.cache.getTableNames (s.reachable around)).map fun (outcome, cache) ↦
      { response := catalogResponse route tablesDocument outcome, service := s.withCache cache }
  | .relatedTables =>
    (s.live.cache.getRelations (s.reachable around)).map fun (outcome, cache) ↦
      { response := catalogResponse route relationsDocument outcome, service := s.withCache cache }
  | .attributes table =>
    plainly <| match s.reachable around with
      | .error fault => failure route.failureTitle fault.text
      | .ok catalog =>
        match catalog.columns table with
        | .error e => failure route.failureTitle (around.lookupDetails e)
        | .ok columns => .ok (columnsDocument columns)
  | .queryView =>
    match s.contentOf r with
    | .missing | .unreadable => plainly (s.invalidRequest r)
    | content => s.answerView content
  | .queryReport =>
    match s.contentOf r with
    | .missing | .unreadable => plainly (s.invalidRequest r)
    | content => s.answerReport around content

/-- Answers a request from the service's own origin. -/
def answerOwn (s : Service) (around : Surroundings) (r : Http.Request) : Logged Answer :=
  match Route.find? r.path with
  | none => { value := { response := .notFound, service := s } }
  | some route =>
    if r.method = route.method then
      (s.answerRoute around r route).map fun a ↦ { a with response := a.response.sent }
    else { value := { response := .methodNotAllowed, service := s } }

/-- A response to a failure that nothing foresaw is not shared. -/
def isForeseen (response : Http.Response) : Bool :=
  match response.body with
  | .text _ => false
  | .document _ => true

/-- Answers a request. -/
def answer (s : Service) (around : Surroundings) (r : Http.Request) : Logged Answer :=
  let origins := s.settings.corsOrigins
  match Http.preflightMethod? r with
  | some method => { value := { response := Http.preflight origins r method, service := s } }
  | none =>
    (s.answerOwn around r).map fun a ↦
      let shared := if isForeseen a.response then a.response.shared origins r else a.response
      { a with response := if r.method = "HEAD" then shared.headOnly else shared }

end Service

end ReportQuery
