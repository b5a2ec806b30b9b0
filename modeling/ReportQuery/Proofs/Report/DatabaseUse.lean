import ReportQuery.Proofs.Except
import ReportQuery.Report.Execution

/-!
# What a run does to its database

A run opens a connection if it is given none, hands over one statement, fetches the rows one after
the other and closes the connection that it opened. Any of these can fail. The program puts a run
together from its accesses, as uses of a database after one another (`DatabaseUse.andThen`) and
around one another (`DatabaseUse.onOwnConnection`); this file says what they come to.

What has to be said about the order of things is said about uses: a use on a connection of its own
closes it *whatever* the use is (`trace_onOwnConnection`), and rows that were fetched before a
failure do not survive it (`fetchFrom_eq`, by induction on the rows that are left). From these
follows what a statement comes to on an open connection, in one piece
(`Database.onConnection_eq`).

A run fails exactly when it meets a failure of its database (`Database.Meets`), and two runs that
meet failures of one kind have one outcome, even when the databases agree in nothing else. That is
how a run conceals the text of a failure, and the rows that came before it.

A row is a record: the last cell under a name is the one that counts (`lookup_record_iff`).
-/

namespace ReportQuery

namespace DatabaseUse

variable {α : Type}

/-- **A connection that is opened is closed**, whatever is done on it, and nothing follows one that
cannot be opened. -/
theorem trace_onOwnConnection (failure : Option DatabaseFault) (u : DatabaseUse α) :
    (onOwnConnection failure u).trace = match failure with
      | none => .connect :: u.trace ++ [.close]
      | some _ => [.connect] := by
  cases failure <;> rfl

/-- A connection that cannot be opened fails the use of it; any other adds nothing to the outcome.
-/
theorem outcome_onOwnConnection (failure : Option DatabaseFault) (u : DatabaseUse α) :
    (onOwnConnection failure u).outcome = match failure with
      | none => u.outcome
      | some fault => .error fault := by
  cases failure <;> rfl

/-- **Fetching is all or nothing**: the records that came before a failure are lost with it. -/
theorem fetchFrom_eq (columns : List String) (failure : Option DatabaseFault) (done : List Row)
    (rows : List (List Cell)) : fetchFrom columns failure done rows = match failure with
      | none => .ok (done ++ rows.map (Database.record columns))
      | some fault => .error fault := by
  induction rows generalizing done with
  | nil => cases failure <;> simp [fetchFrom]
  | cons cells rest ih =>
    rw [fetchFrom, ih]
    cases failure <;> simp

end DatabaseUse

open DatabaseUse

/-- What a statement returns on an open connection. The rows are there only when all of them could
be fetched. -/
def Database.answer (db : Database) : Except DatabaseFault ResultSet :=
  match db.onExecute, db.onFetch with
  | some fault, _ => .error fault
  | none, some fault => .error fault
  | none, none => .ok { columns := db.columns, rows := db.rows.map (record db.columns) }

/-- Whether or not it fails, and on which row, a statement is executed once. -/
theorem Database.onConnection_eq (db : Database) (statement : Statement) :
    db.onConnection statement = { outcome := db.answer, trace := [.execute statement] } := by
  rw [onConnection, fetchFrom_eq, answer]
  rcases db.onExecute with - | fault
  · rcases db.onFetch with - | fault <;> rfl
  · rfl

/-! ### Failures -/

/-- A run on the database meets this failure: it is the first on the way, which begins with
connecting only if there is no connection yet. -/
inductive Database.Meets (db : Database) : Binding → DatabaseFault → Prop
  | connect {fault : DatabaseFault} : db.onConnect = some fault → db.Meets .engine fault
  | execute {binding : Binding} {fault : DatabaseFault} :
    (binding = .engine → db.onConnect = none) → db.onExecute = some fault →
      db.Meets binding fault
  | fetch {binding : Binding} {fault : DatabaseFault} :
    (binding = .engine → db.onConnect = none) → db.onExecute = none → db.onFetch = some fault →
      db.Meets binding fault

/-- The two failures are of one kind. One that the database reports may have another text. -/
inductive DatabaseFault.SameKind : DatabaseFault → DatabaseFault → Prop
  | reported {kind text text' : String} : SameKind (.reported kind text) (.reported kind text')
  | foreign {text : String} : SameKind (.foreign text) (.foreign text)

/-- Once there is a connection, a run comes to what is done on it. -/
theorem Database.outcome_use_of_connects {db : Database} {binding : Binding} (statement : Statement)
    (h : binding = .engine → db.onConnect = none) :
    (db.use statement binding).outcome = db.answer := by
  cases binding with
  | connection => rw [use, onConnection_eq]
  | engine => rw [use, outcome_onOwnConnection, h rfl, onConnection_eq]

/-- **The failure that a run meets is what comes of it.** -/
theorem Database.outcome_use_of_meets {db : Database} {binding : Binding} {fault : DatabaseFault}
    (statement : Statement) (h : db.Meets binding fault) :
    (db.use statement binding).outcome = .error fault := by
  cases h with
  | connect hconnect => rw [use, outcome_onOwnConnection, hconnect]
  | execute hconnect hexecute => rw [outcome_use_of_connects _ hconnect, answer, hexecute]
  | fetch hconnect hexecute hfetch =>
    rw [outcome_use_of_connects _ hconnect, answer, hexecute, hfetch]

/-- **A run that meets no failure has all rows.** -/
theorem Database.outcome_use_of_not_meets {db : Database} {binding : Binding}
    (statement : Statement) (h : ∀ fault, ¬ db.Meets binding fault) :
    (db.use statement binding).outcome =
      .ok { columns := db.columns, rows := db.rows.map (record db.columns) } := by
  have hconnect : binding = .engine → db.onConnect = none := by
    rintro rfl
    exact Option.eq_none_iff_forall_not_mem.2 fun fault hfault ↦ h fault (.connect hfault)
  have hexecute : db.onExecute = none :=
    Option.eq_none_iff_forall_not_mem.2 fun fault hfault ↦ h fault (.execute hconnect hfault)
  have hfetch : db.onFetch = none :=
    Option.eq_none_iff_forall_not_mem.2 fun fault hfault ↦ h fault (.fetch hconnect hexecute hfault)
  rw [outcome_use_of_connects statement hconnect, answer, hexecute, hfetch]

/-! ### Rows -/

/-- The cell that a cell is handed on as: an integer beyond those that floating-point numbers can
tell from their neighbours becomes its decimal text, and anything else stays as it is, an object of
any type included. -/
inductive Cell.HandedOnAs : Cell → Cell → Prop
  | great {n : Int} : 9007199254740991 < n.natAbs →
    HandedOnAs (.value (.int n)) (.value (.text (toString n)))
  | small {n : Int} : n.natAbs ≤ 9007199254740991 → HandedOnAs (.value (.int n)) (.value (.int n))
  | other {cell : Cell} : (∀ n, cell ≠ .value (.int n)) → HandedOnAs cell cell

/-- A cell is handed on in exactly one way. -/
theorem Cell.handedOnAs_iff {cell cell' : Cell} :
    cell.HandedOnAs cell' ↔ cell.exchangeable = cell' := by
  have hexact : greatestExact = 9007199254740991 := by decide
  constructor
  · intro h
    cases h with
    | great hgreat => rw [exchangeable, Value.exchangeable, hexact, if_neg (by omega)]
    | small hsmall => rw [exchangeable, Value.exchangeable, hexact, if_pos hsmall]
    | other hother =>
      rcases cell with v | o
      · cases v <;> first | rfl | exact absurd rfl (hother _)
      · rfl
  · rintro rfl
    rcases cell with v | o
    · cases v
      case int n =>
        rw [exchangeable, Value.exchangeable, hexact]
        by_cases hsmall : n.natAbs ≤ 9007199254740991
        · rw [if_pos hsmall]
          exact .small hsmall
        · rw [if_neg hsmall]
          exact .great (by omega)
      all_goals exact .other nofun
    · exact .other nofun

/-- The record is made of the row: each name of a column stands once, with the value of the last
cell under that name. -/
structure IsRecordOf (columns : List String) (cells : List Cell) (record : Row) : Prop where
  keys_nodup : (record.map (·.1)).Nodup
  lookup_iff (key : String) (handed : Cell) : record.lookup key = some handed ↔
    ∃ before cell after, columns.zip cells = before ++ (key, cell) :: after ∧
      (∀ entry ∈ after, entry.1 ≠ key) ∧ cell.HandedOnAs handed

/-- A key of a record has the last cell under it, as that is handed on. -/
theorem Database.lookup_record_iff {columns : List String} {cells : List Cell} {key : String}
    {handed : Cell} : (record columns cells).lookup key = some handed ↔
      ∃ before cell after, columns.zip cells = before ++ (key, cell) :: after ∧
        (∀ entry ∈ after, entry.1 ≠ key) ∧ cell.exchangeable = handed := by
  rw [record, Fields.lookup_ofPairs_iff]
  constructor
  · rintro ⟨before, after, hpairs, hafter⟩
    obtain ⟨before, tail, hzip, rfl, htail⟩ := List.map_eq_append_iff.1 hpairs
    obtain ⟨⟨name, cell⟩, after, rfl, hentry, rfl⟩ := List.map_eq_cons_iff.1 htail
    cases hentry
    have hafter' : ∀ entry ∈ after, entry.1 ≠ key := fun entry hentry ↦
      hafter (entry.1, entry.2.exchangeable) (List.mem_map.2 ⟨entry, hentry, rfl⟩)
    exact ⟨before, cell, after, hzip, hafter', rfl⟩
  · rintro ⟨before, cell, after, hzip, hafter, rfl⟩
    rw [hzip, List.map_append, List.map_cons]
    exact ⟨_, _, rfl, List.forall_mem_map.2 hafter⟩

/-- A row is handed on as a record of its columns. -/
theorem Database.isRecordOf_record (columns : List String) (cells : List Cell) :
    IsRecordOf columns cells (record columns cells) where
  keys_nodup := Fields.nodup_keys_ofPairs _
  lookup_iff key handed := by
    simp only [lookup_record_iff, Cell.handedOnAs_iff]

/-! ### The whole run -/

/-- What a run does to the database is determined by its connection alone: whether it is its own,
and whether it can be opened. -/
theorem QueryParts.trace_execute (p : QueryParts) (binding : Binding) (db : Database) :
    (p.execute binding db).trace = match binding, db.onConnect with
      | .connection, _ => [.execute { text := p.sql }]
      | .engine, none => [.connect, .execute { text := p.sql }, .close]
      | .engine, some _ => [.connect] := by
  show (db.use { text := p.sql } binding).trace = _
  cases binding with
  | connection => rw [Database.use, Database.onConnection_eq]
  | engine =>
    rw [Database.use, trace_onOwnConnection, Database.onConnection_eq]
    rcases db.onConnect with - | fault <;> rfl

/-- On an engine, a connection is opened first; only if that succeeds is the statement of the
parts executed, once, and the connection closed. -/
theorem QueryParts.trace_execute_engine (p : QueryParts) (db : Database) :
    (p.execute .engine db).trace = match db.onConnect with
      | none => [.connect, .execute { text := p.sql }, .close]
      | some _ => [.connect] := by
  rw [trace_execute]
  rcases db.onConnect with - | fault <;> rfl

/-- What a failed run comes to, and what it reports, depends on the failure alone. -/
theorem QueryParts.execute_of_meets (p : QueryParts) {binding : Binding} {db : Database}
    {fault : DatabaseFault} (h : db.Meets binding fault) :
    (p.execute binding db).outcome = .error (.ofFault fault) ∧
      (p.execute binding db).log = Execution.failureLog { text := p.sql } fault := by
  rw [execute, Execution.ofStatement, Execution.ofUse, Database.outcome_use_of_meets _ h]
  exact ⟨rfl, rfl⟩

/-- A database that meets no fault is answered with all its rows. -/
theorem QueryParts.execute_of_not_meets (p : QueryParts) {binding : Binding} {db : Database}
    (h : ∀ fault, ¬ db.Meets binding fault) : (p.execute binding db).outcome =
      .ok { columns := db.columns, rows := db.rows.map (Database.record db.columns) } := by
  rw [execute, Execution.ofStatement, Execution.ofUse, Database.outcome_use_of_not_meets _ h]
  rfl

/-- **A run closes what it opens and conceals what failed.**

It executes at most one statement, its own, without parameters. On an engine this happens on a
connection that is closed again once it was opened; an open connection is left as it is.

Of a failure that the database reports only the kind is told, and any other is passed on. Two runs
that meet failures of one kind come to the same and report the same, wherever they met them,
whatever their texts and whatever rows had come.

A run that meets no failure has the rows of the database in order, each as a record, with great
integers as texts. -/
theorem QueryParts.execute_closes_and_conceals (p : QueryParts) (binding : Binding)
    (db : Database) :
    ((p.execute binding db).trace = match binding, db.onConnect with
      | .connection, _ => [.execute { text := p.sql, parameters := none }]
      | .engine, none => [.connect, .execute { text := p.sql, parameters := none }, .close]
      | .engine, some _ => [.connect]) ∧
    (∀ kind text, db.Meets binding (.reported kind text) →
      (p.execute binding db).outcome = .error (.failed kind) ∧
        (ExecutionError.failed kind).message = "Query execution failed: " ++ kind) ∧
    (∀ text, db.Meets binding (.foreign text) →
      (p.execute binding db).outcome = .error (.foreign text)) ∧
    (∀ fault, db.Meets binding fault → ∀ (db' : Database) fault', db'.Meets binding fault' →
      fault.SameKind fault' →
      (p.execute binding db').outcome = (p.execute binding db).outcome ∧
        (p.execute binding db').log = (p.execute binding db).log) ∧
    ((∀ fault, ¬ db.Meets binding fault) → ∃ rows,
      (p.execute binding db).outcome = .ok { columns := db.columns, rows } ∧
        List.Forall₂ (IsRecordOf db.columns) db.rows rows) := by
  refine ⟨p.trace_execute binding db, fun kind text h ↦ ⟨(p.execute_of_meets h).1, rfl⟩,
    fun text h ↦ (p.execute_of_meets h).1, ?_, fun h ↦ ⟨_, p.execute_of_not_meets h, ?_⟩⟩
  · intro fault hmeets db' fault' hmeets' hkind
    obtain ⟨houtcome, hlog⟩ := p.execute_of_meets hmeets
    obtain ⟨houtcome', hlog'⟩ := p.execute_of_meets hmeets'
    rw [houtcome, houtcome', hlog, hlog']
    cases hkind <;> exact ⟨rfl, rfl⟩
  · rw [List.forall₂_map_right_iff, List.forall₂_same]
    exact fun cells _ ↦ Database.isRecordOf_record db.columns cells

/-- Nothing is left of a row that came before the rest was lost: the run ends as if the connection
had been refused. -/
theorem lost_rows_end_like_refused_connection :
    let parts : QueryParts := { select := "*", source := "sales" }
    let refused : Database :=
      { onConnect := some (.reported "OperationalError" "no route to host") }
    let lost : Database :=
      { columns := ["id"], rows := [[.value (.int 1)]]
        onFetch := some (.reported "OperationalError" "disk I/O error") }
    (parts.execute .engine lost).outcome = (parts.execute .engine refused).outcome ∧
      (parts.execute .engine lost).outcome = .error (.failed "OperationalError") := by
  intro parts refused lost
  have hrefused : refused.Meets .engine (.reported "OperationalError" "no route to host") :=
    .connect rfl
  have hlost : lost.Meets .engine (.reported "OperationalError" "disk I/O error") :=
    .fetch (fun _ ↦ rfl) rfl rfl
  obtain ⟨-, hreported, -, hconceals, -⟩ := parts.execute_closes_and_conceals .engine refused
  obtain ⟨hsame, -⟩ := hconceals _ hrefused lost _ hlost .reported
  exact ⟨hsame, hsame.trans (hreported _ _ hrefused).1⟩

end ReportQuery
