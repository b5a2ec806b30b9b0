import ReportQuery.Proofs.Service.ReportRoutes

/-!
# The two shapes of an answer to a posted report

What is posted as JSON to one of the two report routes is answered in one of two shapes: with
status 200, the result of the route and what was left out, or with status 500, a headline and
details. Which headline it is tells in which layer the report failed: one is for bodies that are
missing or hold no document, and each route has one of its own for documents that are no request,
requests that do not compile and, on the route that runs reports, statements that fail on the
database. A body that is null has no request either way, but it depends on the service whether it
counts as missing (`Service.countsAsMissing`).

## Three sorts of bodies

The two routes differ in their words and in what they make of a compiled report, and in nothing
else. So everything is said once, for a route as a value. A body is sorted by what it holds
(`contentOf_cases`), and a document by what prevents a report on it (`Prevents`) or by what the
report yields (`Yields`). Each of the three sorts has its document, which the answer tells
(`tells_of_prevents`, `tells_of_yields`); the theorem on shapes is read off these documents, which
exclude one another.

## The third answer

An answer is told if it can be sent. Half of a surrogate pair in a statement or in the details of a
failure prevents that, and so does a cell that has no document; then the answer is a bare text,
which has neither shape. `TwoShapes` says exactly when each answer is given, so the bare text is
given otherwise (`answer_misshapen`).

The database is assumed to fail only with failures that it reports itself: any other is not
foreseen, and is answered with a bare text as well. Limits of an interpreter on the depth of a
document and on the digits of its numerals are left out, as they are in `Json.read`.
-/

namespace ReportQuery.Service

/-! ### What a body holds -/

/-- The body holds a document, as it is or as a JSON text, which may have a byte order mark. -/
inductive HoldsDocument : Option Http.Body → Value → Prop
  | document (v : Value) : HoldsDocument (some (.document v)) v
  | text {s : String} {v : Value} : s.toList.head? ≠ some '\ufeff' → Json.read s = .ok v →
    HoldsDocument (some (.text s)) v
  | marked {s : String} {v : Value} : Json.read s = .ok v →
    HoldsDocument (some (.text ("\ufeff" ++ s))) v

/-- A text holds what is read from it without its mark. -/
theorem holdsDocument_text_iff {s : String} {v : Value} :
    HoldsDocument (some (.text s)) v ↔ Json.read (Http.withoutOrderMark s) = .ok v := by
  constructor
  · intro h
    generalize hbody : some (Http.Body.text s) = body at h
    cases h with
    | document => cases hbody
    | text hmark hread =>
      cases hbody
      rwa [Http.withoutOrderMark, if_neg hmark]
    | marked hread =>
      cases hbody
      simpa [Http.withoutOrderMark] using hread
  · intro h
    rw [Http.withoutOrderMark] at h
    by_cases hmark : s.toList.head? = some '\ufeff'
    · obtain ⟨tail, htail⟩ := List.head?_eq_some_iff.1 hmark
      have hs : s = "\ufeff" ++ String.ofList tail := String.toList_inj.1 (by simp [htail])
      rw [if_pos hmark, htail, List.tail_cons] at h
      exact hs ▸ .marked h
    · rw [if_neg hmark] at h
      exact .text hmark h

/-- **A body that is declared as JSON** is missing or unreadable, and holds nothing, or is a content
as the one document that it holds. -/
theorem content_cases {r : Http.Request}
    (hjson : (r.header? "content-type").any Http.isJsonType = true) :
    (¬ r.content.IsRead ∧ ∀ v, ¬ HoldsDocument r.body v) ∨
      ∃ v, r.content = .document v ∧ ∀ w, HoldsDocument r.body w ↔ w = v := by
  rcases hbody : r.body with - | (v | s)
  · refine .inl ⟨?_, nofun⟩
    rw [Http.Request.content, hbody]
    exact id
  · refine .inr ⟨v, ?_, fun w ↦ ⟨fun h ↦ ?_, fun h ↦ h ▸ .document v⟩⟩
    · simp only [Http.Request.content, hbody, hjson, if_true]
    · cases h
      rfl
  · by_cases hempty : s = ""
    · subst hempty
      refine .inl ⟨?_, fun v h ↦ ?_⟩
      · rw [Http.Request.content, hbody]
        exact id
      · rw [holdsDocument_text_iff] at h
        cases h
    · have hcontent : r.content = Http.contentOfText s := by
        rw [Http.Request.content, hbody]
        split
        case h_1 heq => cases heq
        case h_2 heq => exact absurd (by simpa using heq) hempty
        case h_3 heq =>
          cases heq
          rw [if_pos hjson]
      rw [hcontent, Http.contentOfText]
      rcases hread : Json.read (Http.withoutOrderMark s) with e | v
      · refine .inl ⟨id, fun w h ↦ ?_⟩
        nomatch hread.symm.trans (holdsDocument_text_iff.1 h)
      · refine .inr ⟨v, rfl, fun w ↦ ?_⟩
        rw [holdsDocument_text_iff, hread]
        exact ⟨fun h ↦ (Except.ok.inj h).symm, fun h ↦ h ▸ rfl⟩

/-- **What a route is handed** of such a body is not looked at, and all that the body holds counts
as missing, or it is the one document of the body. -/
theorem contentOf_cases (s : Service) {r : Http.Request}
    (hjson : (r.header? "content-type").any Http.isJsonType = true) :
    (¬ (s.contentOf r).IsRead ∧ ∀ v, HoldsDocument r.body v → s.countsAsMissing v = true) ∨
      ∃ v, s.contentOf r = .document v ∧ s.countsAsMissing v = false ∧
        ∀ w, HoldsDocument r.body w ↔ w = v := by
  rcases content_cases hjson with ⟨hread, hholds⟩ | ⟨v, hcontent, hholds⟩
  · refine .inl ⟨?_, fun v h ↦ absurd h (hholds v)⟩
    rw [contentOf]
    split
    case h_1 hcontent => exact absurd (hcontent ▸ trivial) hread
    case h_2 => exact hread
  · cases hmissing : s.countsAsMissing v
    · exact .inr ⟨v, by simp [contentOf, hcontent, hmissing], hmissing, hholds⟩
    · refine .inl ⟨?_, fun w h ↦ (hholds w).1 h ▸ hmissing⟩
      simp [contentOf, hcontent, hmissing, Http.Content.IsRead]

/-- A document that a route is handed is held by the body. -/
theorem holdsDocument_of_contentOf {s : Service} {r : Http.Request} {v : Value}
    (hjson : (r.header? "content-type").any Http.isJsonType = true)
    (h : s.contentOf r = .document v) : HoldsDocument r.body v ∧ s.countsAsMissing v = false := by
  rcases contentOf_cases s hjson with ⟨hread, -⟩ | ⟨v', hcontent, hlooked, hholds⟩
  · rw [h] at hread
    exact absurd trivial hread
  · cases h.symm.trans hcontent
    exact ⟨(hholds v).2 rfl, hlooked⟩

/-! ### What a document comes to -/

/-- What prevents a report on a document, with the details of it: the document is no request, the
request does not compile, or, where the report is run, the run meets a failure that the database
reports. -/
inductive Prevents (s : Service) (db : Database) : ReportRoute → Value → String → Prop
  | shape {via : ReportRoute} {v : Value} {faults : List Fault} :
    Request.ofValue v = .error faults → Prevents s db via v (s.faultReport (some v) faults)
  | compiling {via : ReportRoute} {v : Value} {request : Request} {e : CompileError} :
    Request.ofValue v = .ok request → s.compiler.compile request = .error e →
      Prevents s db via v e.message
  | running {v : Value} {request : Request} {c : CompiledReport} {kind text : String} :
    Request.ofValue v = .ok request → s.compiler.compile request = .ok c →
      db.Meets .engine (.reported kind text) →
      Prevents s db .run v ("Query execution failed: " ++ kind)

/-- What a report on a document yields when nothing prevents it: the statement, or the rows of the
database, each as the record of its columns. -/
inductive Yields (s : Service) (db : Database) : ReportRoute → Value → Value → Prop
  | view {v : Value} {request : Request} {c : CompiledReport} :
    Request.ofValue v = .ok request → s.compiler.compile request = .ok c →
      Yields s db .view v (viewDocument c)
  | run {v : Value} {request : Request} {c : CompiledReport} {rows : Value} :
    Request.ofValue v = .ok request → s.compiler.compile request = .ok c →
      (∀ fault, ¬ db.Meets .engine fault) →
      rowsDocument? (db.rows.map (Database.record db.columns)) = some rows →
      Yields s db .run v (reportDocument c rows)

section Documents

variable {s : Service} {around : Surroundings} {via : ReportRoute} {headers : Fields String}
  {body : Option Http.Body} {v : Value}

/-- **What prevents a report is told**, if it can be sent. -/
theorem tells_of_prevents {details : String}
    (hcontent : s.contentOf (via.post headers body) = .document v)
    (h : s.Prevents around.database via v details) :
    Tells (s.answer around (via.post headers body)).value.response 500
      (failureDocument via.title details) := by
  have hread : (s.contentOf (via.post headers body)).IsRead := by
    rw [hcontent]
    trivial
  cases h with
  | shape hshape =>
    refine (tells_refused s around headers body via hread ?_).1
    rw [hcontent, compiled_document, hshape]
  | compiling hshape hcompile =>
    refine (tells_refused s around headers body via hread ?_).1
    rw [hcontent, compiled_document, hshape]
    exact mapError_eq_error_iff.2 ⟨_, hcompile, rfl⟩
  | running hshape hcompile hmeets =>
    exact (tells_run s around headers body ⟨v, _, hcontent, hshape, hcompile⟩).2.1 _ _ hmeets

/-- **What a report yields is told**, if it can be sent. -/
theorem tells_of_yields {document : Value}
    (hcontent : s.contentOf (via.post headers body) = .document v)
    (h : s.Yields around.database via v document) :
    Tells (s.answer around (via.post headers body)).value.response 200 document := by
  cases h with
  | view hshape hcompile =>
    exact tells_shown s around headers body ⟨v, _, hcontent, hshape, hcompile⟩
  | run hshape hcompile hmeets hrows =>
    have htells := (tells_run s around headers body ⟨v, _, hcontent, hshape, hcompile⟩).2.2 hmeets
    rwa [hrows] at htells

/-- A document is prevented from being answered or yields something, unless a row has no
document. -/
theorem prevents_or_yields (hcontent : s.contentOf (via.post headers body) = .document v)
    (hdb : ∀ text, ¬ around.database.Meets .engine (.foreign text)) :
    (∃ details, s.Prevents around.database via v details) ∨
    (∃ document, s.Yields around.database via v document) ∨
    SaysNothing (s.answer around (via.post headers body)).value.response := by
  rcases hshape : Request.ofValue v with faults | request
  · exact .inl ⟨_, .shape hshape⟩
  rcases hcompile : s.compiler.compile request with e | c
  · exact .inl ⟨_, .compiling hshape hcompile⟩
  -- only the route that runs the report can meet a failure
  refine (em (∃ fault, via = .run ∧ around.database.Meets .engine fault)).imp ?_ fun hmeets ↦ ?_
  · rintro ⟨fault, rfl, hfault⟩
    cases fault with
    | reported kind text => exact ⟨_, .running hshape hcompile hfault⟩
    | foreign text => exact absurd hfault (hdb text)
  cases via with
  | view => exact .inl ⟨_, .view hshape hcompile⟩
  | run =>
    have hmeets (fault : DatabaseFault) : ¬ around.database.Meets .engine fault :=
      fun hfault ↦ hmeets ⟨fault, rfl, hfault⟩
    have htells := (tells_run s around headers body ⟨v, _, hcontent, hshape, hcompile⟩).2.2 hmeets
    rcases hrows : rowsDocument?
      (around.database.rows.map (Database.record around.database.columns)) with - | rows
    · rw [hrows] at htells
      exact .inr htells
    · exact .inl ⟨_, .run hshape hcompile hmeets hrows⟩

end Documents

/-! ### The two shapes -/

/-- The response has status 200 and a document with exactly these keys. -/
def SucceedsWith (keys : List String) (r : Http.Response) : Prop :=
  r.status = 200 ∧ ∃ fields, r.body = .document (.record fields) ∧ fields.map (·.1) = keys

/-- The response has status 500 and a document with exactly a headline and details. -/
def FailsUnder (title : String) (r : Http.Response) : Prop :=
  r.status = 500 ∧ ∃ details,
    r.body = .document (.record [("error", .text title), ("details", .text details)])

variable {r : Http.Response}

/-- A failure that is told has its own headline and no other. -/
theorem Tells.failsUnder_iff {title title' details : String} (htitle : Text.hasHalf title = false)
    (h : Tells r 500 (failureDocument title details)) :
    FailsUnder title' r ↔ title' = title ∧ Text.hasHalf details = false := by
  rw [Tells, isSendable_failureDocument htitle] at h
  cases hhalf : Text.hasHalf details <;> rw [hhalf] at h
  · obtain ⟨hstatus, hbody⟩ :
      r.status = 500 ∧ r.body = .document (failureDocument title details) := h
    rw [FailsUnder, hbody, failureDocument]
    simp [hstatus, eq_comm]
  · obtain ⟨hstatus, hbody⟩ : SaysNothing r := h
    simp [FailsUnder, hbody]

/-- A bare text has no headline. -/
theorem SaysNothing.not_failsUnder {title : String} (h : SaysNothing r) : ¬ FailsUnder title r := by
  rintro ⟨-, details, hbody⟩
  cases h.2.symm.trans hbody

theorem SaysNothing.status_ne (h : SaysNothing r) : r.status ≠ 200 := by
  rw [h.1]
  decide

/-- A result that is told is no failure. -/
theorem Tells.not_failsUnder {title : String} {document : Value} (h : Tells r 200 document) :
    ¬ FailsUnder title r := by
  by_cases hsendable : document.isSendable = true
  · rintro ⟨hstatus, -⟩
    exact absurd ((h.of_isSendable hsendable).1.symm.trans hstatus) (by decide)
  · rw [Tells, if_neg hsendable] at h
    exact h.not_failsUnder

/-- **The answers to a posted body.** Each answer is given exactly in its case, and if it can be
sent; a bare text is given otherwise. -/
structure TwoShapes (s : Service) (db : Database) (via : ReportRoute) (headers : Fields String)
    (body : Option Http.Body) (response : Http.Response) : Prop where
  /-- The request is called invalid exactly when the body holds nothing that does not count as
  missing. -/
  invalid_iff : FailsUnder "Invalid request" response ↔
    (∀ v, HoldsDocument body v → s.countsAsMissing v = true) ∧
      Text.hasHalf (s.bodyReport (via.post headers body)) = false
  /-- The headline is the route's own exactly when something prevents the report. -/
  prevented_iff : FailsUnder via.title response ↔ ∃ v details, HoldsDocument body v ∧
    s.countsAsMissing v = false ∧ s.Prevents db via v details ∧ Text.hasHalf details = false
  /-- The status is that of success exactly when the report yields something. -/
  succeeds_iff : response.status = 200 ↔ ∃ v document, HoldsDocument body v ∧
    s.countsAsMissing v = false ∧ s.Yields db via v document ∧ document.isSendable = true
  /-- A success has exactly the keys of its route. -/
  succeedsWith : response.status = 200 → SucceedsWith [via.key, "dropped"] response
  /-- The rows of a success are those of the database, in order. -/
  rows : via = .run → response.status = 200 → ∃ c rows document,
    List.Forall₂ (IsRecordOf db.columns) db.rows rows ∧ rowsDocument? rows = some document ∧
      response.body = .document (reportDocument c document)
  /-- An answer that has neither shape says nothing. -/
  otherwise : response.status = 200 ∨ (∃ title, FailsUnder title response) ∨ SaysNothing response

/-- A failure stands under its headline, or it cannot be sent. -/
theorem Tells.failsUnder_or {title details : String}
    (h : Tells r 500 (failureDocument title details)) :
    FailsUnder title r ∨ SaysNothing r := by
  rw [Tells] at h
  split at h
  · exact .inl ⟨h.1, details, h.2⟩
  · exact .inr h

/-- A result is told under the status of success exactly when it can be sent. -/
theorem Tells.status_eq_iff {document : Value} (h : Tells r 200 document) :
    r.status = 200 ↔ document.isSendable = true := by
  constructor
  · intro hstatus
    by_contra hsendable
    rw [Tells, if_neg hsendable] at h
    exact h.status_ne hstatus
  · exact fun hsendable ↦ (h.of_isSendable hsendable).1

/-- What a report yields has the keys of its route. -/
theorem Yields.keys {s : Service} {db : Database} {via : ReportRoute} {v document : Value}
    (h : s.Yields db via v document) :
    ∃ fields, document = .record fields ∧ fields.map (·.1) = [via.key, "dropped"] := by
  cases h with
  | view => exact ⟨_, rfl, rfl⟩
  | run => exact ⟨_, rfl, rfl⟩

/-! ### Every posted body -/

section Posts

variable (s : Service) (around : Surroundings) (via : ReportRoute) (headers : Fields String)
  {body : Option Http.Body} {v : Value}

/-- The answers to a body that holds nothing, or null. -/
theorem twoShapes_of_unread (hread : ¬ (s.contentOf (via.post headers body)).IsRead)
    (hmissing : ∀ v, HoldsDocument body v → s.countsAsMissing v = true) :
    TwoShapes s around.database via headers body
      (s.answer around (via.post headers body)).value.response := by
  have htells := (tells_unread s around headers body via hread).1
  have hstatus : (s.answer around (via.post headers body)).value.response.status ≠ 200 := by
    rw [htells.status_eq]
    decide
  have hinvalid : Text.hasHalf "Invalid request" = false := by decide +kernel
  have htitle : via.title ≠ "Invalid request" := by cases via <;> decide
  refine ⟨?_, iff_of_false ?_ ?_, iff_of_false hstatus ?_, ?_, ?_, ?_⟩
  case refine_1 =>
    rw [htells.failsUnder_iff hinvalid]
    exact ⟨fun h ↦ ⟨hmissing, h.2⟩, fun h ↦ ⟨rfl, h.2⟩⟩
  case refine_2 => exact fun h ↦ htitle ((htells.failsUnder_iff hinvalid).1 h).1
  case refine_3 | refine_4 =>
    exact fun ⟨v, _, hholds, hlooked, _⟩ ↦ absurd (hmissing v hholds) (by simp [hlooked])
  case refine_5 => exact fun h ↦ absurd h hstatus
  case refine_6 => exact fun _ h ↦ absurd h hstatus
  case refine_7 => exact .inr (htells.failsUnder_or.imp (fun h ↦ ⟨_, h⟩) id)

variable {s around via headers}

/-- A document that is looked at is not called an invalid request. -/
theorem not_failsUnder_invalid (hcontent : s.contentOf (via.post headers body) = .document v)
    (hdb : ∀ text, ¬ around.database.Meets .engine (.foreign text)) :
    ¬ FailsUnder "Invalid request" (s.answer around (via.post headers body)).value.response := by
  have htitle : "Invalid request" ≠ via.title := by cases via <;> decide
  rcases prevents_or_yields hcontent hdb with ⟨details, h⟩ | ⟨document, h⟩ | h
  · exact fun hfails ↦
      htitle (((tells_of_prevents hcontent h).failsUnder_iff (hasHalf_title via)).1 hfails).1
  · exact (tells_of_yields hcontent h).not_failsUnder
  · exact h.not_failsUnder

/-- The route's own headline stands over what prevents the report. -/
theorem failsUnder_title_iff (hcontent : s.contentOf (via.post headers body) = .document v)
    (hdb : ∀ text, ¬ around.database.Meets .engine (.foreign text)) :
    FailsUnder via.title (s.answer around (via.post headers body)).value.response ↔
      ∃ details, s.Prevents around.database via v details ∧ Text.hasHalf details = false := by
  constructor
  · intro hfails
    rcases prevents_or_yields hcontent hdb with ⟨details, h⟩ | ⟨document, h⟩ | h
    · have htells := tells_of_prevents hcontent h
      exact ⟨details, h, ((htells.failsUnder_iff (hasHalf_title via)).1 hfails).2⟩
    · exact absurd hfails (tells_of_yields hcontent h).not_failsUnder
    · exact absurd hfails h.not_failsUnder
  · rintro ⟨details, h, hhalf⟩
    exact ((tells_of_prevents hcontent h).failsUnder_iff (hasHalf_title via)).2 ⟨rfl, hhalf⟩

/-- A response with the status of success tells what the report yields. -/
theorem exists_yields_of_status (hcontent : s.contentOf (via.post headers body) = .document v)
    (hdb : ∀ text, ¬ around.database.Meets .engine (.foreign text))
    (hstatus : (s.answer around (via.post headers body)).value.response.status = 200) :
    ∃ document, s.Yields around.database via v document ∧ document.isSendable = true ∧
      (s.answer around (via.post headers body)).value.response.body = .document document := by
  rcases prevents_or_yields hcontent hdb with ⟨details, h⟩ | ⟨document, h⟩ | h
  · exact absurd ((tells_of_prevents hcontent h).status_eq.symm.trans hstatus) (by decide)
  · have htells := tells_of_yields hcontent h
    have hsendable := htells.status_eq_iff.1 hstatus
    exact ⟨document, h, hsendable, (htells.of_isSendable hsendable).2⟩
  · exact absurd hstatus h.status_ne

/-- The answers to a body that holds a document. -/
theorem twoShapes_of_document (hcontent : s.contentOf (via.post headers body) = .document v)
    (hlooked : s.countsAsMissing v = false) (hholds : ∀ w, HoldsDocument body w ↔ w = v)
    (hdb : ∀ text, ¬ around.database.Meets .engine (.foreign text)) :
    TwoShapes s around.database via headers body
      (s.answer around (via.post headers body)).value.response where
  invalid_iff := iff_of_false (not_failsUnder_invalid hcontent hdb)
    fun h ↦ absurd (h.1 v ((hholds v).2 rfl)) (by simp [hlooked])
  prevented_iff := by
    rw [failsUnder_title_iff hcontent hdb]
    constructor
    · rintro ⟨details, h, hhalf⟩
      exact ⟨v, details, (hholds v).2 rfl, hlooked, h, hhalf⟩
    · rintro ⟨w, details, hw, -, h, hhalf⟩
      obtain rfl := (hholds w).1 hw
      exact ⟨details, h, hhalf⟩
  succeeds_iff := by
    constructor
    · intro hstatus
      obtain ⟨document, h, hsendable, -⟩ := exists_yields_of_status hcontent hdb hstatus
      exact ⟨v, document, (hholds v).2 rfl, hlooked, h, hsendable⟩
    · rintro ⟨w, document, hw, -, h, hsendable⟩
      obtain rfl := (hholds w).1 hw
      exact (tells_of_yields hcontent h).status_eq_iff.2 hsendable
  succeedsWith hstatus := by
    obtain ⟨document, h, -, hbody⟩ := exists_yields_of_status hcontent hdb hstatus
    obtain ⟨fields, rfl, hkeys⟩ := h.keys
    exact ⟨hstatus, fields, hbody, hkeys⟩
  -- the rows are told as records, and a record is what its row is handed on as
  rows hrun hstatus := by
    obtain ⟨document, h, -, hbody⟩ := exists_yields_of_status hcontent hdb hstatus
    cases h with
    | view => cases hrun
    | run _ _ _ hrows =>
      refine ⟨_, _, _, ?_, hrows, hbody⟩
      rw [List.forall₂_map_right_iff, List.forall₂_same]
      exact fun cells _ ↦ Database.isRecordOf_record _ cells
  otherwise := by
    rcases prevents_or_yields hcontent hdb with ⟨details, h⟩ | ⟨document, h⟩ | h
    · exact .inr ((tells_of_prevents hcontent h).failsUnder_or.imp (fun h ↦ ⟨_, h⟩) id)
    · by_cases hsendable : document.isSendable = true
      · exact .inl ((tells_of_yields hcontent h).status_eq_iff.2 hsendable)
      · have htells := tells_of_yields hcontent h
        rw [Tells, if_neg hsendable] at htells
        exact .inr (.inr htells)
    · exact .inr (.inr h)

end Posts

/-- **Both report routes answer in one of two shapes, if they can.** Whatever is posted as JSON, the
answer is a result beside what was left out, or a headline beside details, unless it cannot be sent.
The headline says that the request is invalid exactly when the body holds no document, or null
where that counts as missing; it is the route's own exactly when the body holds a document and that
is no request, does not compile, or, where it is run, fails on the database; and the answer is a
result exactly otherwise. -/
theorem answer_two_shapes (s : Service) (around : Surroundings) (via : ReportRoute)
    (headers : Fields String) (body : Option Http.Body)
    (hjson : ((via.post headers body).header? "content-type").any Http.isJsonType = true)
    (hdb : ∀ text, ¬ around.database.Meets .engine (.foreign text)) :
    TwoShapes s around.database via headers body
      (s.answer around (via.post headers body)).value.response := by
  rcases contentOf_cases s hjson with ⟨hread, hmissing⟩ | ⟨v, hcontent, hlooked, hholds⟩
  · exact twoShapes_of_unread s around via headers hread hmissing
  · exact twoShapes_of_document hcontent hlooked hholds hdb

/-- A report that is shown, and cannot be run because the database refuses the connection. -/
theorem salesReport_two_shapes :
    (∀ via : ReportRoute, ((via.post jsonHeaders (some salesReport)).header?
      "content-type").any Http.isJsonType = true) ∧
    (∀ text, ¬ refusing.database.Meets .engine (.foreign text)) ∧
    (plainService.answer refusing
      (ReportRoute.view.post jsonHeaders (some salesReport))).value.response.status = 200 ∧
    FailsUnder "Failed to generate report" (plainService.answer refusing
      (ReportRoute.run.post jsonHeaders (some salesReport))).value.response := by
  have hjson (via : ReportRoute) : ((via.post jsonHeaders (some salesReport)).header?
      "content-type").any Http.isJsonType = true := by
    cases via <;> decide +kernel
  have hdb (text : String) : ¬ refusing.database.Meets .engine (.foreign text) := by
    rintro (h | ⟨hconnect, -⟩ | ⟨hconnect, -⟩)
    · cases h
    · cases hconnect rfl
    · cases hconnect rfl
  have hview := answer_two_shapes plainService refusing .view jsonHeaders (some salesReport)
    (hjson .view) hdb
  have hrun := answer_two_shapes plainService refusing .run jsonHeaders (some salesReport)
    (hjson .run) hdb
  obtain ⟨c, hc, hasks⟩ := exists_asksFor plainService
    (plainService.contentOf (ReportRoute.run.post jsonHeaders (some salesReport)))
    (fun c ↦ (viewDocument c).isSendable) (by decide +kernel)
  obtain ⟨v, request, hcontent, hshape, hcompile⟩ := hasks
  obtain ⟨hholds, hlooked⟩ := holdsDocument_of_contentOf (hjson .run) hcontent
  refine ⟨hjson, hdb, ?_, ?_⟩
  · exact hview.succeeds_iff.2 ⟨v, _, hholds, hlooked, .view hshape hcompile, hc⟩
  · exact hrun.prevented_iff.2
      ⟨v, _, hholds, hlooked, .running hshape hcompile (.connect rfl), by decide +kernel⟩

/-- The body of a report on a table whose name is half of a surrogate pair. -/
def halvedName : Http.Body := .text "\x7b\"tables\": [\"\\ud800\"]\x7d"

/-- **Two answers of another shape than is due.** A request that does not compile is answered with
a bare text when its details cannot be sent, and so is a report that was run without a failure when
a row of it has no document. -/
theorem answer_misshapen :
    SaysNothing (plainService.answer {}
      (ReportRoute.view.post jsonHeaders (some halvedName))).value.response ∧
    (∀ fault, ¬ storing.database.Meets .engine fault) ∧
    SaysNothing (plainService.answer storing
      (ReportRoute.run.post jsonHeaders (some salesReport))).value.response := by
  refine ⟨?_, salesReport_unanswered⟩
  obtain ⟨details, hdetails, hrefused⟩ := exists_refused plainService
    (plainService.contentOf (ReportRoute.view.post jsonHeaders (some halvedName)))
    Text.hasHalf (by decide +kernel)
  have htells := (tells_refused plainService {} jsonHeaders (some halvedName) .view
    (by decide +kernel) hrefused).1
  rwa [Tells, isSendable_failureDocument (hasHalf_title .view), hdetails] at htells

end ReportQuery.Service
