import ReportQuery.Proofs.Report.DatabaseUse
import ReportQuery.Service

/-!
# The two report routes

A report is posted to one of two routes: one shows the statement that the report compiles to, the
other runs it. The first writes the statement from the compiled report, the second from its
parts, on a database. This file relates the answers of the two routes to one body, for every
body, whatever the database does.

## From one value to two answers

A body that is missing or cannot be read is not looked at (`Http.Content.IsRead`), and is answered
alike whatever the route. From any other body both routes make one value first, the report that it
asks for or the details of what prevents it (`Service.compiled`), and they differ only in what they
make of that value: a response (`ReportRoute.respond`) and a use of the database
(`ReportRoute.trace`). `answer_post_unread` and `answer_post_read` say so, and everything else is a
comparison of the two functions. The trace of the second route matters as much as its response:
what is refused reaches no database at all.

## Answers that cannot be sent

A response is made first and sent afterwards (`Http.Response.sent`). A text with half of a surrogate
pair in it cannot be sent, whether it is part of a statement or of the details of a failure, and
neither can a row with a cell that has no document. Both routes answer with a bare text then. But
the route that runs reports has used the database already when it finds out, and the other one has
shown nothing; `halvedReport_executes_unshown` is such a report. So the two answers are compared as
far as they can be sent, and the database is compared in any case.
-/

namespace ReportQuery

/-- The content is looked at: it is there and can be read. -/
def Http.Content.IsRead : Http.Content → Prop
  | .missing | .unreadable => False
  | .document _ | .octets => True

instance : DecidablePred Http.Content.IsRead
  | .missing | .unreadable => isFalse id
  | .document _ | .octets => isTrue trivial

/-- A record of two fields can be sent when its keys and its values can. -/
theorem Value.isSendable_pair {key key' : String} {v v' : Value} (hkey : Text.hasHalf key = false)
    (hkey' : Text.hasHalf key' = false) :
    (Value.record [(key, v), (key', v')]).isSendable = (v.isSendable && v'.isSendable) := by
  simp [isSendable, texts, textsOfFields, hkey, hkey']

namespace Service

/-! ### Posting a report -/

/-- The routes that reports are posted to: one shows the statement, the other runs it. -/
inductive ReportRoute where
  | view | run

namespace ReportRoute

/-- The target under which the route is found. -/
def target : ReportRoute → String
  | .view => "/query-to-view"
  | .run => "/query-report"

/-- A body posted to the route. -/
def post (via : ReportRoute) (headers : Fields String) (body : Option Http.Body) :
    Http.Request where
  method := "POST"
  target := via.target
  headers
  body

/-- The route of the service. -/
def route : ReportRoute → Route
  | .view => .queryView
  | .run => .queryReport

/-- The key of its result. -/
def key : ReportRoute → String
  | .view => "fullQuery"
  | .run => "result"

/-- The headline of its failures. -/
def title : ReportRoute → String
  | .view => "Failed to build query"
  | .run => "Failed to generate report"

/-- What a route is handed of a post does not depend on the route. -/
theorem contentOf_post (s : Service) (via via' : ReportRoute) (headers : Fields String)
    (body : Option Http.Body) :
    s.contentOf (via.post headers body) = s.contentOf (via'.post headers body) := by
  cases via <;> cases via' <;> rfl

/-- The target leads to the route. -/
theorem find?_target (via : ReportRoute) :
    Route.find? (Http.Path.ofTarget via.target) = some via.route := by
  cases via <;> decide +kernel

theorem method_route (via : ReportRoute) : via.route.method = "POST" := by
  cases via <;> rfl

/-- What the route makes of a report, or of the details of what prevents it. -/
def respond (via : ReportRoute) (db : Database) : Except String CompiledReport → Http.Response
  | .error details => failure via.title details
  | .ok c => match via with
    | .view => .ok (viewDocument c)
    | .run => reportResponse c (c.parts.execute .engine db).outcome

/-- What the route does to the database for a report. -/
def trace (via : ReportRoute) (db : Database) : Except String CompiledReport → List DatabaseAccess
  | .error _ => []
  | .ok c => match via with
    | .view => []
    | .run => (c.parts.execute .engine db).trace

/-- A failure of the database is told by its kind. -/
theorem respond_run_of_meets {db : Database} {kind text : String} (c : CompiledReport)
    (h : db.Meets .engine (.reported kind text)) :
    run.respond db (.ok c) = failure run.title ("Query execution failed: " ++ kind) := by
  rw [respond, (c.parts.execute_of_meets h).1]
  rfl

/-- A database that does not fail is answered with all its rows, if each has a document. -/
theorem respond_run_of_not_meets {db : Database} (c : CompiledReport)
    (h : ∀ fault, ¬ db.Meets .engine fault) : run.respond db (.ok c) =
      match rowsDocument? (db.rows.map (Database.record db.columns)) with
      | some rows => .ok (reportDocument c rows)
      | none => .internalError := by
  rw [respond, c.parts.execute_of_not_meets h]
  rfl

end ReportRoute

/-! ### The two answers -/

section Answers

variable (s : Service) (around : Surroundings) (via : ReportRoute)

/-- Both routes call a request invalid whose content is not looked at. -/
theorem answerRoute_of_not_isRead {r : Http.Request} (h : ¬ (s.contentOf r).IsRead) :
    (s.answerRoute around r via.route).value =
      { response := s.invalidRequest r, service := s } := by
  rcases hcontent : s.contentOf r with - | - | v | -
  case document | octets => exact absurd (hcontent ▸ trivial) h
  all_goals
    cases via <;> simp only [ReportRoute.route, answerRoute, hcontent]

/-- The two routes in terms of the one value that both make first. -/
theorem answerRoute_of_isRead {r : Http.Request} (h : (s.contentOf r).IsRead) :
    (s.answerRoute around r via.route).value =
      { response := via.respond around.database (s.compiled (s.contentOf r)).value
        trace := via.trace around.database (s.compiled (s.contentOf r)).value
        service := s } := by
  rcases hcontent : s.contentOf r with - | - | v | -
  case missing | unreadable =>
    rw [hcontent] at h
    exact h.elim
  -- octets hold no report either, but that is found out where a document is checked too
  all_goals
    cases via
    case view =>
      simp only [ReportRoute.route, answerRoute, hcontent, answerView, Logged.map]
      rcases (s.compiled _).value with details | c <;> rfl
    case run =>
      simp only [ReportRoute.route, answerRoute, hcontent, answerReport, Logged.andThen]
      rcases (s.compiled _).value with details | c <;> rfl

variable (headers : Fields String) (body : Option Http.Body)

/-- Sharing with other origins leaves status and body of a response to a post as they are sent. -/
theorem answer_post : ∃ origin, (s.answer around (via.post headers body)).value =
    let a := (s.answerRoute around (via.post headers body) via.route).value
    { a with response := { a.response.sent with allowOrigin := origin } } := by
  have hpreflight : Http.preflightMethod? (via.post headers body) = none := by
    simp [Http.preflightMethod?, ReportRoute.post]
  have hroute : s.answerOwn around (via.post headers body) =
      (s.answerRoute around (via.post headers body) via.route).map fun a ↦
        { a with response := a.response.sent } := by
    have hpath : Route.find? (via.post headers body).path = some via.route :=
      via.find?_target
    simp only [answerOwn, hpath]
    exact if_pos via.method_route.symm
  simp only [answer, hpreflight, hroute, Logged.map]
  rw [if_neg (by simp [ReportRoute.post])]
  by_cases hforeseen : isForeseen
      (s.answerRoute around (via.post headers body) via.route).value.response.sent
  · exact ⟨_, by rw [if_pos hforeseen, Http.Response.shared]⟩
  · exact ⟨_, by rw [if_neg hforeseen]⟩

/-- A body that is not looked at is answered alike on both routes, and reaches no database. -/
theorem answer_post_unread (h : ¬ (s.contentOf (via.post headers body)).IsRead) :
    ∃ origin, (s.answer around (via.post headers body)).value =
      { response := { (s.invalidRequest (via.post headers body)).sent with
          allowOrigin := origin }
        service := s } := by
  obtain ⟨origin, hanswer⟩ := answer_post s around via headers body
  exact ⟨origin, by rw [hanswer, answerRoute_of_not_isRead s around via h]⟩

/-- **Every body that is looked at is answered** by what the route makes of the report that it
asks for. -/
theorem answer_post_read (h : (s.contentOf (via.post headers body)).IsRead) :
    let report := (s.compiled (s.contentOf (via.post headers body))).value
    ∃ origin, (s.answer around (via.post headers body)).value =
      { response := { (via.respond around.database report).sent with allowOrigin := origin }
        trace := via.trace around.database report
        service := s } := by
  obtain ⟨origin, hanswer⟩ := answer_post s around via headers body
  exact ⟨origin, by rw [hanswer, answerRoute_of_isRead s around via h]⟩

end Answers

/-! ### Shapes of responses -/

/-- The statements among the accesses to a database, in order. -/
def statements (trace : List DatabaseAccess) : List Statement :=
  trace.filterMap fun
    | .execute statement => some statement
    | _ => none

/-- A statement in a trace was executed. -/
theorem mem_statements {trace : List DatabaseAccess} {st : Statement} :
    st ∈ statements trace ↔ .execute st ∈ trace := by
  rw [statements, List.mem_filterMap]
  refine ⟨fun ⟨access, hmem, heq⟩ ↦ ?_, fun h ↦ ⟨_, h, rfl⟩⟩
  cases access <;> cases heq
  exact hmem

/-- The response shows a statement beside what it leaves out. -/
def Shows (r : Http.Response) (statement : String) (dropped : Value) : Prop :=
  r.status = 200 ∧
    r.body = .document (.record [("fullQuery", .text statement), ("dropped", dropped)])

/-- The response has rows beside what the statement leaves out. -/
def Returns (r : Http.Response) (rows dropped : Value) : Prop :=
  r.status = 200 ∧ r.body = .document (.record [("result", rows), ("dropped", dropped)])

/-- The response is a failure with these details, under some headline. -/
def Fails (r : Http.Response) (details : String) : Prop :=
  r.status = 500 ∧
    ∃ title, r.body = .document (.record [("error", .text title), ("details", .text details)])

/-- A shown statement is determined by the response. -/
theorem Shows.unique {r : Http.Response} {q q' : String} {d d' : Value} (h : Shows r q d)
    (h' : Shows r q' d') : q = q' ∧ d = d' := by
  have hbody := h.2.symm.trans h'.2
  simpa using hbody

/-! ### What a response tells -/

/-- The response only says that answering failed. -/
def SaysNothing (r : Http.Response) : Prop :=
  r.status = 500 ∧ r.body = .text "Internal Server Error"

/-- The response tells the document under the status, if the document can be sent. -/
def Tells (r : Http.Response) (status : ℕ) (document : Value) : Prop :=
  if document.isSendable then r.status = status ∧ r.body = .document document else SaysNothing r

variable {r : Http.Response}

/-- What is sent of a document is told. -/
theorem tells_sent {status : ℕ} {document : Value} (origin : Option String) :
    Tells { ({ status, body := .document document } : Http.Response).sent with
      allowOrigin := origin } status document := by
  rw [Tells, Http.Response.sent]
  dsimp only
  split <;> exact ⟨rfl, rfl⟩

/-- Whether a failure can be sent or not, its status is that of a failure. -/
theorem Tells.status_eq {document : Value} (h : Tells r 500 document) : r.status = 500 := by
  rw [Tells] at h
  split at h <;> exact h.1

theorem Tells.of_isSendable {status : ℕ} {document : Value} (h : Tells r status document)
    (hsendable : document.isSendable = true) : r.status = status ∧ r.body = .document document := by
  rwa [Tells, if_pos hsendable] at h

/-- Whether a failure can be sent depends on its details alone. -/
theorem isSendable_failureDocument {title : String} (htitle : Text.hasHalf title = false)
    (details : String) : (failureDocument title details).isSendable = !Text.hasHalf details := by
  rw [failureDocument, Value.isSendable_pair (by decide +kernel) (by decide +kernel)]
  simp [Value.isSendable, Value.texts, htitle]

/-- A failure that is told has its own details and no others. -/
theorem Tells.fails_iff {title details details' : String} (htitle : Text.hasHalf title = false)
    (h : Tells r 500 (failureDocument title details)) :
    Fails r details' ↔ details' = details ∧ Text.hasHalf details = false := by
  rw [Tells, isSendable_failureDocument htitle] at h
  cases hhalf : Text.hasHalf details <;> rw [hhalf] at h
  · obtain ⟨hstatus, hbody⟩ :
      r.status = 500 ∧ r.body = .document (failureDocument title details) := h
    rw [Fails, hbody, failureDocument]
    simp [hstatus, eq_comm]
  · obtain ⟨hstatus, hbody⟩ : SaysNothing r := h
    simp [Fails, hbody]

/-- A report that is told as a statement shows its own statement and nothing else. -/
theorem Tells.shows_iff {c : CompiledReport} {q : String} {d : Value}
    (h : Tells r 200 (viewDocument c)) : Shows r q d ↔
      (q = c.sql ∧ d = droppedDocument c.dropped) ∧ (viewDocument c).isSendable = true := by
  constructor
  · intro hshows
    by_cases hsendable : (viewDocument c).isSendable = true
    · have htells : Shows r c.sql (droppedDocument c.dropped) := h.of_isSendable hsendable
      exact ⟨hshows.unique htells, hsendable⟩
    · rw [Tells, if_neg hsendable] at h
      exact absurd (h.1.symm.trans hshows.1) (by decide)
  · rintro ⟨⟨rfl, rfl⟩, hsendable⟩
    exact h.of_isSendable hsendable

/-! ### The statement shown and the statement run -/

/-- The report that a content asks for: the content is a document, that is a request, and the
request compiles. -/
def AsksFor (s : Service) (content : Http.Content) (c : CompiledReport) : Prop :=
  ∃ v request, content = .document v ∧ Request.ofValue v = .ok request ∧
    s.compiler.compile request = .ok c

/-- A document is read as a request and compiled; either can fail, in words of its own. -/
theorem compiled_document (s : Service) (v : Value) : (s.compiled (.document v)).value =
    match Request.ofValue v with
    | .error faults => .error (s.faultReport (some v) faults)
    | .ok request => (s.compiler.compile request).mapError CompileError.message := by
  show (match Request.ofValue v with
    | .error faults => { value := .error (s.faultReport (some v) faults) }
    | .ok request => (s.compiler.compileLogged request).map (·.mapError CompileError.message)
    : Logged (Except String CompiledReport)).value = _
  rcases Request.ofValue v with faults | request <;> rfl

/-- A content is compiled to the report that it asks for. -/
theorem compiled_eq_ok_iff {s : Service} {content : Http.Content} {c : CompiledReport} :
    (s.compiled content).value = .ok c ↔ s.AsksFor content c := by
  rcases content with - | - | v | -
  case document =>
    rw [compiled_document]
    rcases hrequest : Request.ofValue v with faults | request <;>
      simp [AsksFor, hrequest, mapError_eq_ok_iff]
  all_goals
    refine iff_of_false nofun ?_
    rintro ⟨v, _, hcontent, -⟩
    cases hcontent

/-- Whether a statement can be shown depends on the statement and on what it leaves out. -/
theorem isSendable_viewDocument (c : CompiledReport) : (viewDocument c).isSendable =
    (!Text.hasHalf c.sql && (droppedDocument c.dropped).isSendable) := by
  rw [viewDocument, Value.isSendable_pair (by decide +kernel) (by decide +kernel)]
  simp [Value.isSendable, Value.texts]

theorem hasHalf_title (via : ReportRoute) : Text.hasHalf via.title = false := by
  cases via <;> decide +kernel

section Answers

variable (s : Service) (around : Surroundings) (headers : Fields String) (body : Option Http.Body)

/-- What is told of a body that is not looked at. -/
theorem tells_unread (via : ReportRoute) (h : ¬ (s.contentOf (via.post headers body)).IsRead) :
    Tells (s.answer around (via.post headers body)).value.response 500
      (failureDocument "Invalid request" (s.bodyReport (via.post headers body))) ∧
    (s.answer around (via.post headers body)).value.trace = [] := by
  obtain ⟨origin, hanswer⟩ := answer_post_unread s around via headers body h
  rw [hanswer]
  exact ⟨tells_sent origin, rfl⟩

/-- What is told of a body that asks for no report. -/
theorem tells_refused (via : ReportRoute) {details : String}
    (h : (s.contentOf (via.post headers body)).IsRead)
    (hreport : (s.compiled (s.contentOf (via.post headers body))).value = .error details) :
    Tells (s.answer around (via.post headers body)).value.response 500
      (failureDocument via.title details) ∧
    (s.answer around (via.post headers body)).value.trace = [] := by
  obtain ⟨origin, hanswer⟩ := answer_post_read s around via headers body h
  rw [hanswer, hreport]
  exact ⟨tells_sent origin, rfl⟩

variable {c : CompiledReport}

/-- A content that asks for a report is looked at. -/
theorem AsksFor.isRead {content : Http.Content} (h : s.AsksFor content c) : content.IsRead := by
  obtain ⟨v, -, rfl, -⟩ := h
  trivial

/-- **What showing a report tells**: its statement and what that leaves out. -/
theorem tells_shown (h : s.AsksFor (s.contentOf (ReportRoute.view.post headers body)) c) :
    Tells (s.answer around (ReportRoute.view.post headers body)).value.response 200
      (viewDocument c) := by
  obtain ⟨origin, hanswer⟩ := answer_post_read s around .view headers body h.isRead
  rw [hanswer, compiled_eq_ok_iff.2 h]
  exact tells_sent origin

/-- **What running a report does and tells**: the trace is that of its parts on the database; a
failure that the database reports is told by its kind, and the rows as documents, unless one of them
has none. -/
theorem tells_run (h : s.AsksFor (s.contentOf (ReportRoute.run.post headers body)) c) :
    (s.answer around (ReportRoute.run.post headers body)).value.trace =
      (c.parts.execute .engine around.database).trace ∧
    (∀ kind text, around.database.Meets .engine (.reported kind text) →
      Tells (s.answer around (ReportRoute.run.post headers body)).value.response 500
        (failureDocument ReportRoute.run.title ("Query execution failed: " ++ kind))) ∧
    ((∀ fault, ¬ around.database.Meets .engine fault) →
      match rowsDocument? (around.database.rows.map (Database.record around.database.columns)) with
      | some rows => Tells (s.answer around (ReportRoute.run.post headers body)).value.response 200
          (reportDocument c rows)
      | none =>
        SaysNothing (s.answer around (ReportRoute.run.post headers body)).value.response) := by
  obtain ⟨origin, hanswer⟩ := answer_post_read s around .run headers body h.isRead
  rw [hanswer, compiled_eq_ok_iff.2 h]
  refine ⟨rfl, fun kind text hmeets ↦ ?_, fun hmeets ↦ ?_⟩
  · rw [ReportRoute.respond_run_of_meets c hmeets]
    exact tells_sent origin
  · rw [ReportRoute.respond_run_of_not_meets c hmeets]
    rcases rowsDocument? (around.database.rows.map _) with - | rows
    · exact ⟨rfl, rfl⟩
    · exact tells_sent origin

end Answers

/-! ### The comparison -/

/-- The answers of the two routes to one body agree: what is shown is what is run. -/
structure RunsWhatIsShown (s : Service) (db : Database) (headers : Fields String)
    (body : Option Http.Body) (view run : Answer) : Prop where
  /-- What is shown is executed without parameters on a connection of its own, if there is one, and
  rows that come back and can be sent are answered beside the same left-out items. -/
  shown : ∀ q d, Shows view.response q d →
    (run.trace = match db.onConnect with
      | none => [.connect, .execute { text := q, parameters := none }, .close]
      | some _ => [.connect]) ∧
    ((∀ fault, ¬ db.Meets .engine fault) →
      ∀ rows, rowsDocument? (db.rows.map (Database.record db.columns)) = some rows →
        rows.isSendable = true → Returns run.response rows d)
  /-- What is refused when it is shown is refused when it is run, and reaches no database. The
  details are the same, unless the body is not looked at and is reported otherwise to the other
  route. -/
  refused : ∀ details, Fails view.response details → run.response.status = 500 ∧ run.trace = [] ∧
    ((s.contentOf (ReportRoute.run.post headers body)).IsRead ∨ s.bodyReport
      (ReportRoute.view.post headers body) = s.bodyReport (ReportRoute.run.post headers body) →
        Fails run.response details)
  /-- What is executed is the statement of the report that is asked for. It has no parameters, and
  is shown if it can be sent. -/
  executed : ∀ st ∈ statements run.trace, st.parameters = none ∧
    ∃ c, s.AsksFor (s.contentOf (ReportRoute.run.post headers body)) c ∧ c.sql = st.text ∧
      ((viewDocument c).isSendable = true →
        Shows view.response st.text (droppedDocument c.dropped))
  /-- Every success shows a statement. -/
  shows_of_status : view.response.status = 200 → ∃ q d, Shows view.response q d

namespace RunsWhatIsShown

variable {s : Service} {db : Database} {headers : Fields String} {body : Option Http.Body}
  {view run : Answer}

/-- A body that both routes refuse. -/
theorem of_refused (hview : view.response.status = 500) (hrun : run.response.status = 500)
    (htrace : run.trace = [])
    (hdetails : (s.contentOf (ReportRoute.run.post headers body)).IsRead ∨ s.bodyReport
      (ReportRoute.view.post headers body) = s.bodyReport (ReportRoute.run.post headers body) →
        ∀ details, Fails view.response details → Fails run.response details) :
    RunsWhatIsShown s db headers body view run where
  shown q d hshows := absurd (hview.symm.trans hshows.1) (by decide)
  refused details hfails := ⟨hrun, htrace, fun halike ↦ hdetails halike details hfails⟩
  executed st hst := by
    rw [htrace] at hst
    cases hst
  shows_of_status hstatus := absurd (hview.symm.trans hstatus) (by decide)

/-- A body that asks for a report, which the one route shows and the other runs. -/
theorem of_asksFor {c : CompiledReport}
    (hasks : s.AsksFor (s.contentOf (ReportRoute.run.post headers body)) c)
    (hview : Tells view.response 200 (viewDocument c))
    (htrace : run.trace = (c.parts.execute .engine db).trace)
    (hrows : (∀ fault, ¬ db.Meets .engine fault) →
      ∀ rows, rowsDocument? (db.rows.map (Database.record db.columns)) = some rows →
        Tells run.response 200 (reportDocument c rows)) :
    RunsWhatIsShown s db headers body view run where
  shown q d hshows := by
    obtain ⟨⟨rfl, rfl⟩, hsendable⟩ := hview.shows_iff.1 hshows
    refine ⟨htrace.trans (c.parts.trace_execute_engine db), fun hmeets rows hdocument hsend ↦ ?_⟩
    rw [isSendable_viewDocument, Bool.and_eq_true] at hsendable
    refine (hrows hmeets rows hdocument).of_isSendable ?_
    rw [reportDocument, Value.isSendable_pair (by decide +kernel) (by decide +kernel), hsend,
      hsendable.2]
    rfl
  refused details hfails := by
    -- a report that is shown or cannot be sent has no details
    by_cases hsendable : (viewDocument c).isSendable = true
    · exact absurd ((hview.of_isSendable hsendable).1.symm.trans hfails.1) (by decide)
    · rw [Tells, if_neg hsendable] at hview
      obtain ⟨-, title, hbody⟩ := hfails
      cases hview.2.symm.trans hbody
  executed st hst := by
    rw [mem_statements, htrace, c.parts.trace_execute_engine] at hst
    rcases hconnect : db.onConnect with - | fault <;> simp [hconnect] at hst
    subst hst
    exact ⟨rfl, c, hasks, rfl, fun hsendable ↦ hview.shows_iff.2 ⟨⟨rfl, rfl⟩, hsendable⟩⟩
  shows_of_status hstatus := by
    by_cases hsendable : (viewDocument c).isSendable = true
    · exact ⟨_, _, hview.of_isSendable hsendable⟩
    · rw [Tells, if_neg hsendable] at hview
      exact absurd (hview.1.symm.trans hstatus) (by decide)

end RunsWhatIsShown

/-- **The statement shown is the statement run.** A body that is shown a statement opens one
connection when it is run; if that succeeds, it executes exactly the statement, without
parameters, and closes the connection, and rows that come back are answered beside the same
left-out items, provided that they have documents that can be sent. A body that is refused never
connects, and is refused with the same details, if only a body that is not looked at is reported
alike to both routes. Nothing is executed that is not shown, unless it cannot be sent. -/
theorem answer_report_executes_shown (s : Service) (around around' : Surroundings)
    (headers : Fields String) (body : Option Http.Body) :
    RunsWhatIsShown s around.database headers body
      (s.answer around' (ReportRoute.view.post headers body)).value
      (s.answer around (ReportRoute.run.post headers body)).value := by
  have hcontent := ReportRoute.contentOf_post s .view .run headers body
  by_cases hread : (s.contentOf (ReportRoute.run.post headers body)).IsRead
  -- a body that is not looked at is refused by both, in words for each
  case neg =>
    have hview := tells_unread s around' headers body .view (hcontent ▸ hread)
    have hrun := tells_unread s around headers body .run hread
    refine .of_refused hview.1.status_eq hrun.1.status_eq hrun.2 fun halike details hfails ↦ ?_
    have hinvalid : Text.hasHalf "Invalid request" = false := by decide +kernel
    rw [hrun.1.fails_iff hinvalid, ← halike.resolve_left hread]
    exact (hview.1.fails_iff hinvalid).1 hfails
  rcases hreport : (s.compiled (s.contentOf (ReportRoute.run.post headers body))).value with
    details | c
  · have hview := tells_refused s around' headers body .view (hcontent ▸ hread) (hcontent ▸ hreport)
    have hrun := tells_refused s around headers body .run hread hreport
    refine .of_refused hview.1.status_eq hrun.1.status_eq hrun.2 fun _ details' hfails ↦ ?_
    exact (hrun.1.fails_iff (hasHalf_title .run)).2
      ((hview.1.fails_iff (hasHalf_title .view)).1 hfails)
  · have hasks := compiled_eq_ok_iff.1 hreport
    obtain ⟨htrace, -, hrows⟩ := tells_run s around headers body hasks
    refine .of_asksFor hasks (tells_shown s around' headers body (hcontent ▸ hasks)) htrace ?_
    intro hmeets rows hdocument
    have htells := hrows hmeets
    rwa [hdocument] at htells

/-! ### Reports that differ -/

/-- A service on the standard relations, with nothing in its catalog. -/
def plainService : Service where
  settings := {}
  compiler := {}
  live := { catalog := {} }

/-- The headers of a JSON body. -/
def jsonHeaders : Fields String := [("content-type", "application/json")]

/-- The body of a report on one table. -/
def salesReport : Http.Body := .text "\x7b\"tables\": [\"sales\"]\x7d"

/-- The body of a report on the sales in a city whose name is half of a surrogate pair. -/
def halvedReport : Http.Body := .text <|
  "\x7b\"tables\": [\"sales\"], \"filters\": [\x7b\"column\": \"sales.city\", " ++
    "\"value\": \"\\ud800\"\x7d]\x7d"

/-- The statement of a half: what stands between the quotes is the mark and its character. -/
def halvedStatement : String :=
  "SELECT *\nFROM sales\nWHERE sales.city = '" ++ String.ofList (Text.written 0xd800) ++ "';"

/-- A report can be looked up where equality of reports cannot be decided. -/
theorem exists_asksFor (s : Service) (content : Http.Content) (p : CompiledReport → Bool)
    (h : (s.compiled content).value.toOption.any p = true) :
    ∃ c, p c = true ∧ s.AsksFor content c := by
  rcases hvalue : (s.compiled content).value with e | c <;> rw [hvalue] at h
  · cases h
  · exact ⟨c, h, compiled_eq_ok_iff.1 hvalue⟩

/-- What prevents a report can be looked up likewise. -/
theorem exists_refused (s : Service) (content : Http.Content) (p : String → Bool)
    (h : (match (s.compiled content).value with
      | .error details => p details
      | .ok _ => false) = true) :
    ∃ details, p details = true ∧ (s.compiled content).value = .error details := by
  rcases hvalue : (s.compiled content).value with details | c <;> rw [hvalue] at h
  · exact ⟨details, h, rfl⟩
  · cases h

theorem shows_salesReport (around : Surroundings) : ∃ d,
    Shows (plainService.answer around
      (ReportRoute.view.post jsonHeaders (some salesReport))).value.response
      "SELECT *\nFROM sales;" d := by
  obtain ⟨c, hc, hasks⟩ := exists_asksFor plainService
    (plainService.contentOf (ReportRoute.view.post jsonHeaders (some salesReport)))
    (fun c ↦ c.sql = "SELECT *\nFROM sales;" ∧ (viewDocument c).isSendable) (by decide +kernel)
  simp only [Bool.decide_and, Bool.decide_eq_true, Bool.and_eq_true, decide_eq_true_eq] at hc
  have htells := tells_shown plainService around jsonHeaders _ hasks
  exact ⟨_, htells.shows_iff.2 ⟨⟨hc.1.symm, rfl⟩, hc.2⟩⟩

/-- A database that opens connections is handed the one statement that is shown. -/
theorem salesReport_executes_shown :
    (∃ d, Shows (plainService.answer {}
      (ReportRoute.view.post jsonHeaders (some salesReport))).value.response
      "SELECT *\nFROM sales;" d) ∧
    (plainService.answer {} (ReportRoute.run.post jsonHeaders (some salesReport))).value.trace =
      [.connect, .execute { text := "SELECT *\nFROM sales;" }, .close] := by
  obtain ⟨d, hshows⟩ := shows_salesReport {}
  have hagrees := answer_report_executes_shown plainService {} {} jsonHeaders (some salesReport)
  exact ⟨⟨d, hshows⟩, (hagrees.shown _ d hshows).1⟩

/-- Surroundings in which no connection can be opened. -/
def refusing : Surroundings where
  database := { onConnect := some (.reported "OperationalError" "connection refused") }

/-- Surroundings in which the database has one row, with octets in it that are no text. -/
def storing : Surroundings where
  database := { columns := ["photo"], rows := [[.object { text := "b'\\xff'" }]] }

/-- The statement that the report with half of a surrogate pair compiles to is executed, and it is
not shown. -/
theorem halvedReport_executes_unshown :
    SaysNothing (plainService.answer {}
      (ReportRoute.view.post jsonHeaders (some halvedReport))).value.response ∧
    statements (plainService.answer {}
      (ReportRoute.run.post jsonHeaders (some halvedReport))).value.trace =
        [{ text := halvedStatement }] := by
  obtain ⟨c, hc, hasks⟩ := exists_asksFor plainService
    (plainService.contentOf (ReportRoute.run.post jsonHeaders (some halvedReport)))
    (fun c ↦ c.sql = halvedStatement ∧ !(viewDocument c).isSendable) (by decide +kernel)
  simp only [Bool.decide_and, Bool.and_eq_true, decide_eq_true_eq, Bool.not_eq_eq_eq_not,
    Bool.not_true] at hc
  have htells := tells_shown plainService {} jsonHeaders (some halvedReport)
    (ReportRoute.contentOf_post _ .view .run jsonHeaders _ ▸ hasks)
  have htrace := (tells_run plainService {} jsonHeaders _ hasks).1
  rw [c.parts.trace_execute_engine] at htrace
  rw [Tells, hc.2] at htells
  refine ⟨htells, ?_⟩
  rw [htrace, ← hc.1]
  rfl

/-- A row without a document is found out when the report has been run. -/
theorem salesReport_unanswered : (∀ fault, ¬ storing.database.Meets .engine fault) ∧
    SaysNothing (plainService.answer storing
      (ReportRoute.run.post jsonHeaders (some salesReport))).value.response := by
  obtain ⟨c, -, hasks⟩ := exists_asksFor plainService
    (plainService.contentOf (ReportRoute.run.post jsonHeaders (some salesReport))) (fun _ ↦ true)
    (by decide +kernel)
  have hmeets (fault : DatabaseFault) : ¬ storing.database.Meets .engine fault := by
    rintro (hconnect | ⟨-, hexecute⟩ | ⟨-, -, hfetch⟩)
    · cases hconnect
    · cases hexecute
    · cases hfetch
  exact ⟨hmeets, (tells_run plainService storing jsonHeaders _ hasks).2.2 hmeets⟩

/-- A connection that cannot be opened is handed nothing. -/
theorem salesReport_unexecuted : statements (plainService.answer refusing
    (ReportRoute.run.post jsonHeaders (some salesReport))).value.trace = [] := by
  obtain ⟨c, -, hasks⟩ := exists_asksFor plainService
    (plainService.contentOf (ReportRoute.run.post jsonHeaders (some salesReport))) (fun _ ↦ true)
    (by decide +kernel)
  have htrace := (tells_run plainService refusing jsonHeaders _ hasks).1
  rw [c.parts.trace_execute_engine] at htrace
  rw [htrace]
  rfl

/-- The plain service, where null counts as missing, and what is missing is reported with its
route. -/
def namingService : Service :=
  { plainService with bodyReport := (·.target), nullIsMissing := true }

/-- Null is not looked at there. -/
theorem not_isRead_null (via : ReportRoute) :
    ¬ (namingService.contentOf (via.post jsonHeaders (some (.text "null")))).IsRead := by
  cases via <;> decide +kernel

/-- What is refused without being looked at may have other details on the other route. -/
theorem nullBody_reported_apart :
    Fails (namingService.answer {}
      (ReportRoute.view.post jsonHeaders (some (.text "null")))).value.response "/query-to-view" ∧
    Fails (namingService.answer {}
      (ReportRoute.run.post jsonHeaders (some (.text "null")))).value.response "/query-report" := by
  have hfails (via : ReportRoute) (htarget : Text.hasHalf via.target = false) : Fails
      (namingService.answer {} (via.post jsonHeaders (some (.text "null")))).value.response
        via.target :=
    ((tells_unread namingService {} jsonHeaders _ via (not_isRead_null via)).1.fails_iff
      (by decide +kernel)).2 ⟨rfl, htarget⟩
  exact ⟨hfails .view (by decide +kernel), hfails .run (by decide +kernel)⟩

/-- **What is shown need not be run, and what is run need not be shown.** A statement that is shown
is not run when no connection can be opened; it is run without an answer when a row that comes back
has no document; and a statement with half of a surrogate pair in it is run and cannot be shown.
What is refused may have other details on the other route, when it is not looked at. -/
theorem shown_and_run_differ :
    (∃ d, Shows (plainService.answer refusing
        (ReportRoute.view.post jsonHeaders (some salesReport))).value.response
      "SELECT *\nFROM sales;" d) ∧
    statements (plainService.answer refusing
      (ReportRoute.run.post jsonHeaders (some salesReport))).value.trace = [] ∧
    (∀ fault, ¬ storing.database.Meets .engine fault) ∧
    SaysNothing (plainService.answer storing
      (ReportRoute.run.post jsonHeaders (some salesReport))).value.response ∧
    SaysNothing (plainService.answer {}
      (ReportRoute.view.post jsonHeaders (some halvedReport))).value.response ∧
    statements (plainService.answer {}
      (ReportRoute.run.post jsonHeaders (some halvedReport))).value.trace =
        [{ text := halvedStatement }] ∧
    Fails (namingService.answer {}
      (ReportRoute.view.post jsonHeaders (some (.text "null")))).value.response "/query-to-view" ∧
    Fails (namingService.answer {}
      (ReportRoute.run.post jsonHeaders (some (.text "null")))).value.response "/query-report" := by
  obtain ⟨hmeets, hnothing⟩ := salesReport_unanswered
  obtain ⟨hunshown, hexecuted⟩ := halvedReport_executes_unshown
  exact ⟨shows_salesReport refusing, salesReport_unexecuted, hmeets, hnothing, hunshown, hexecuted,
    nullBody_reported_apart⟩

end Service

end ReportQuery
