import ReportQuery.CommandLine.Preview
import ReportQuery.Proofs.Relation.FileGraph

/-!
# What the command comes to

The command that is called with a path, and with no options, compiles the request in the file with
the standard relations. This file says what it comes to, for whatever stands at the path and for
every console (`preview_path_outcome`).

## What is due and what is shown

Each path but one has its things to be shown (`Due`): if the file holds a request that compiles,
these are the tables of its plan, the statement that the library gives for the request and a row for
each item that is left out; otherwise it is one error, whose title and message say what prevents the
report (`RefusedWith`). The run shows what is due in order and ends with code 0 or code 1, unless
the console does not take one of the things. Then it breaks off there and has shown what stands
before. So an error message may be what the command fails on: its text is not escaped, and a console
that reads marks for style takes a name such as `[/x]` for the end of a style that never began
(`preview_terminal_refuses`).

The exception is a file of octets that are no text. They are found while the file is read, where
only failures of the file, of the JSON syntax and of the request are expected, so the run breaks off
and shows nothing (`preview_octetRequest`). It is the same exception as for relations that are read
from a file.

What is shown is read back from the list of things shown, by their kind and their colour
(`Run.statements`, `Run.errors`, `Run.lines`, `Run.rows`). Limits of an interpreter on the depth of
a document and on the digits of its numerals are left out, as they are in `Json.read`.
-/

namespace ReportQuery

/-- The file holds the request: its octets are a text, the text is a JSON document, and the document
has the shape of this request. -/
def Directory.HoldsRequest (d : Directory) (path : String) (r : Request) : Prop :=
  ∃ content text document, d.lookup path = .bytes content ∧ File.readText content = some text ∧
    Json.read text = .ok document ∧ Request.ofValue document = .ok r

/-- The file holds a request that compiles. -/
def Directory.HoldsReport (d : Directory) (path : String) : Prop :=
  ∃ r c, d.HoldsRequest path r ∧ ({} : Compiler).compile r = .ok c

namespace CommandLine

/-! ### The arguments -/

namespace Word

/-- What is no option, shortened or not, is taken as it stands. -/
theorem eq_of_ofShortened?_eq_plain {cs : List Char} {s : String}
    (h : ofShortened? cs = some (.plain s)) : s = String.ofList cs := by
  rw [ofShortened?.eq_def] at h
  extract_lets otherwise at h
  have hplain (h : otherwise = .plain s) : s = String.ofList cs := by
    dsimp only [otherwise] at h
    split at h
    · exact (plain.inj h).symm
    · nomatch h
  clear_value otherwise
  split at h
  · dsimp only at h
    split at h
    · exact hplain (Option.some.inj h)
    · nomatch h
    · nomatch h
  · nomatch h
  · exact hplain (Option.some.inj h)

/-- A plain argument stands for itself. -/
theorem eq_of_of?_eq_plain {argument s : String} (h : of? argument = some (.plain s)) :
    s = argument := by
  have hshortened (h : ofShortened? argument.toList = some (.plain s)) : s = argument := by
    rw [eq_of_ofShortened?_eq_plain h, String.ofList_toList]
  simp only [of?] at h
  split at h
  · exact (plain.inj (Option.some.inj h)).symm
  split at h
  · nomatch h
  split at h
  · exact (plain.inj (Option.some.inj h)).symm
  split at h
  · exact hshortened h
  split at h
  · nomatch h
  split at h
  · nomatch h
  · exact hshortened h

end Word

/-- A lone option leaves the request unnamed. -/
theorem readWords_option_ne_ok (switch : Switch) (value : Option String) (a : Arguments) :
    readWords {} [.option switch value] ≠ .ok a := by
  intro h
  rcases switch with - | - | - | - <;> rcases value with - | value
  case graphSource.some =>
    have hread : readWords {} [.option .graphSource (some value)] =
        ((Read.withSource {} value) >>= fun r ↦ readWords r []) := by
      rw [readWords]
      rcases Read.withSource {} value <;> rfl
    obtain ⟨r, hr, hfinish⟩ := bind_eq_ok_iff.1 (hread ▸ h)
    rw [Read.withSource] at hr
    split at hr
    · obtain rfl := Except.ok.inj hr
      nomatch hfinish
    · nomatch hr
  all_goals nomatch h

theorem readWords_singleton_eq_ok_iff {w : Word} {a : Arguments} :
    readWords {} [w] = .ok a ↔ ∃ s, w = .plain s ∧ a = { request := s } := by
  constructor
  · intro h
    rcases w with s | - | ⟨switch, value⟩ | letters | -
    · exact ⟨s, rfl, (Except.ok.inj h).symm⟩
    · nomatch h
    · exact absurd h (readWords_option_ne_ok switch value a)
    · nomatch h
    · nomatch h
  · rintro ⟨s, rfl, rfl⟩
    rfl

/-- **A lone argument is read as the path of the request**, with no options, exactly when it is
plain. -/
theorem Arguments.read_singleton_eq_ok_iff {path : String} {a : Arguments} :
    read [path] = .ok a ↔ Word.of? path = some (.plain path) ∧ a = { request := path } := by
  by_cases hseparator : path = "--"
  · subst hseparator
    refine iff_of_false nofun ?_
    rintro ⟨hplain, -⟩
    exact absurd hplain (by decide +kernel)
  · have hall : Word.all? [path] = (Word.of? path).map fun w ↦ [w] := by
      rw [Word.all?]
      · rcases Word.of? path <;> rfl
      · exact hseparator
    rw [read, hall]
    rcases hword : Word.of? path with - | w
    · exact iff_of_false nofun nofun
    · show readWords {} [w] = .ok a ↔ _
      rw [readWords_singleton_eq_ok_iff]
      constructor
      · rintro ⟨s, rfl, rfl⟩
        obtain rfl := Word.eq_of_of?_eq_plain hword
        exact ⟨rfl, rfl⟩
      · rintro ⟨hplain, rfl⟩
        exact ⟨path, Option.some.inj hplain, rfl⟩

/-! ### What is shown -/

namespace Run

variable (run : Run)

/-- The texts that are framed in this colour. -/
def framed (colour : String) : List String :=
  run.shown.filterMap fun
    | .frame text _ border => if border = colour then some text else none
    | _ => none

/-- The statements that are shown. -/
def statements : List String := run.framed "yellow"

/-- The errors that are shown. -/
def errors : List String := run.framed "red"

/-- The lines that are shown. -/
def lines : List String :=
  run.shown.filterMap fun
    | .line text => some text
    | _ => none

/-- The rows of the tables that are shown. -/
def rows : List (List String) :=
  run.shown.flatMap fun
    | .table _ _ rows => rows
    | _ => []

end Run

/-- What stands in front of the tables of a plan. -/
def joinsLabel (plan : JoinPlan) : String :=
  if plan.joins = [] then "Single table report: " else "Joins resolved: "

/-- The run has shown the report: one statement, which is that of the library, the tables of the
plan, a row for each item that was left out, and no error. -/
structure Shows (request : Request) (c : CompiledReport) (run : Run) : Prop where
  statement : ∃ sql, ({} : Compiler).preview request = .ok sql ∧ run.statements = [sql]
  tables : run.lines =
    [Shown.styled "green" "✓" ++ " " ++ (joinsLabel c.plan ++ " → ".intercalate c.plan.included)]
  dropped : run.rows = c.dropped.map fun d ↦ [word d.kind, d.subject, d.reason]
  errors_eq_nil : run.errors = []

/-! ### Showing things one after the other -/

/-- The console takes all of these things. -/
def Console.TakesAll (console : Console) (items : List Shown) : Prop :=
  ∀ item ∈ items, console.fault item = none

namespace Run

variable {console : Console}

/-- What a console takes is in front of what is shown after it. -/
theorem showing_of_takesAll {items : List Shown} (h : console.TakesAll items) (r : Run) :
    showing console items r = { r with shown := items ++ r.shown } := by
  induction items with
  | nil => rfl
  | cons item items ih =>
    obtain ⟨hitem, hitems⟩ := List.forall_mem_cons.1 h
    rw [showing, hitem, ih hitems]
    rfl

/-- **A run breaks off at the first thing that is not taken**, whatever should follow it. -/
theorem showing_of_fault {before after : List Shown} {item : Shown} {fault : String}
    (h : console.TakesAll before) (hitem : console.fault item = some fault) (r : Run) :
    showing console (before ++ item :: after) r =
      { ending := .broken (.console fault), shown := before } := by
  induction before with
  | nil =>
    rw [List.nil_append, showing, hitem]
    rfl
  | cons first before ih =>
    obtain ⟨hfirst, hbefore⟩ := List.forall_mem_cons.1 h
    rw [List.cons_append, showing, hfirst, ih hbefore]

/-- The console takes everything, or there is a first thing that it does not take. -/
theorem takesAll_or_fault (console : Console) (items : List Shown) : console.TakesAll items ∨
    ∃ before item after fault, items = before ++ item :: after ∧ console.TakesAll before ∧
      console.fault item = some fault := by
  induction items with
  | nil => exact .inl nofun
  | cons item items ih =>
    rcases hitem : console.fault item with - | fault
    · rcases ih with htakes | ⟨before, next, after, fault, rfl, hbefore, hnext⟩
      · exact .inl (List.forall_mem_cons.2 ⟨hitem, htakes⟩)
      · exact .inr ⟨item :: before, next, after, fault, rfl,
          List.forall_mem_cons.2 ⟨hitem, hbefore⟩, hnext⟩
    · exact .inr ⟨[], item, items, fault, rfl, nofun, hitem⟩

end Run

/-! ### What is due -/

/-- What prevents a report on what stands at a path, as the title and the message of an error: the
file cannot be read as a document, the document is no request, or the request does not compile. -/
inductive RefusedWith (around : Surroundings) (path : String) : String → String → Prop
  | unreadable {fault : DocumentFault} :
    File.readDocument around.directory path = .error fault → fault ≠ .notUtf8 →
      RefusedWith around path "Invalid Request" fault.message
  | shape {document : Value} {faults : List Fault} :
    File.readDocument around.directory path = .ok document →
      Request.ofValue document = .error faults →
      RefusedWith around path "Invalid Request" (around.faultReport (some document) faults)
  | compiling {request : Request} {e : CompileError} :
    around.directory.HoldsRequest path request → ({} : Compiler).compile request = .error e →
      RefusedWith around path "Compilation Error" e.message

/-- The things that are to be shown for what stands at a path, and the code to end with. -/
inductive Due (around : Surroundings) (path : String) : ℕ → List Shown → Prop
  | refusal {title message : String} :
    RefusedWith around path title message → Due around path 1 [.error title message]
  | report {request : Request} {c : CompiledReport} :
    around.directory.HoldsRequest path request → ({} : Compiler).compile request = .ok c →
      Due around path 0 (showReport c)

/-- What the command comes to with what stands at a path. -/
structure PathOutcome (around : Surroundings) (path : String) (run : Run) : Prop where
  /-- It succeeds exactly when the file holds a request that compiles, and the report is shown. -/
  succeeds_iff : run.ending = .code 0 ↔ ∃ request c, around.directory.HoldsRequest path request ∧
    ({} : Compiler).compile request = .ok c ∧ around.console.TakesAll (showReport c)
  /-- It is refused exactly when something prevents the report, and the error is shown. -/
  refused_iff : run.ending = .code 1 ↔ ∃ title message, RefusedWith around path title message ∧
    around.console.TakesAll [.error title message]
  /-- It breaks off without anything to show exactly when the file holds octets that are no text. -/
  notUtf8_iff : run.ending = .broken .notUtf8 ↔ around.directory.HoldsNoText path
  /-- It breaks off at the console exactly when that does not take one of the things that are
  due. -/
  console_iff : ∀ fault, run.ending = .broken (.console fault) ↔ ∃ code before item after,
    Due around path code (before ++ item :: after) ∧ around.console.TakesAll before ∧
      around.console.fault item = some fault
  shows : ∀ request c, around.directory.HoldsRequest path request →
    ({} : Compiler).compile request = .ok c → run.ending = .code 0 → Shows request c run
  refusal : run.ending = .code 1 →
    ∃ title message, RefusedWith around path title message ∧ run.shown = [.error title message]
  breakdown : run.ending = .broken .notUtf8 → run.shown = []
  /-- What is shown is always the beginning of what is due. -/
  shown_isPrefix : ∀ code items, Due around path code items → run.shown <+: items
  trace_eq_nil : run.trace = []

variable {around : Surroundings} {path : String} {request : Request}

/-- Whether tables are joined or not, the line names the tables of the plan. -/
theorem showJoins_eq (plan : JoinPlan) :
    showJoins plan = .success (joinsLabel plan ++ " → ".intercalate plan.included) := by
  rw [showJoins, joinsLabel, JoinPlan.included]
  rcases plan.joins with - | ⟨join, joins⟩
  · show Shown.success _ = .success (_ ++ " → ".intercalate [plan.base])
    rw [String.intercalate_singleton]
    rfl
  · rfl

/-- A run that has shown everything of a report has shown the report. -/
theorem shows_of_shown {c : CompiledReport} {run : Run}
    (hcompile : ({} : Compiler).compile request = .ok c) (hshown : run.shown = showReport c) :
    Shows request c run := by
  have hpreview : ({} : Compiler).preview request = .ok c.sql := by
    rw [Compiler.preview, hcompile]
    rfl
  rw [showReport, showJoins_eq] at hshown
  refine ⟨⟨c.sql, hpreview, ?_⟩, ?_, ?_, ?_⟩
  · rw [Run.statements, Run.framed, hshown, showDropped]
    split <;> rfl
  · rw [Run.lines, hshown, showDropped]
    split <;> rfl
  · rw [Run.rows, hshown, showDropped]
    split
    · next hnone =>
      rw [List.isEmpty_iff.1 hnone]
      rfl
    · exact List.append_nil _
  · rw [Run.errors, Run.framed, hshown, showDropped]
    split <;> rfl

/-! ### Reading the request -/

/-- A file holds a request exactly when its document is read and has the shape of one. -/
theorem holdsRequest_iff {d : Directory} : d.HoldsRequest path request ↔ ∃ document,
    File.readDocument d path = .ok document ∧ Request.ofValue document = .ok request := by
  simp only [Directory.HoldsRequest, File.readDocument_eq_ok_iff]
  constructor
  · rintro ⟨content, text, document, hcontent, htext, hread, hrequest⟩
    exact ⟨document, ⟨content, text, hcontent, htext, hread⟩, hrequest⟩
  · rintro ⟨document, ⟨content, text, hcontent, htext, hread⟩, hrequest⟩
    exact ⟨content, text, document, hcontent, htext, hread, hrequest⟩

/-- A file holds at most one request. -/
theorem eq_of_holdsRequest {d : Directory} {r : Request} (h : d.HoldsRequest path request)
    (h' : d.HoldsRequest path r) : request = r := by
  obtain ⟨document, hdocument, hrequest⟩ := holdsRequest_iff.1 h
  obtain ⟨document', hdocument', hrequest'⟩ := holdsRequest_iff.1 h'
  obtain rfl := Except.ok.inj (hdocument.symm.trans hdocument')
  exact Except.ok.inj (hrequest.symm.trans hrequest')

/-! ### The run -/

/-- With a request the run is that of compiling it with the standard relations. -/
theorem preview_of_holdsRequest (h : around.directory.HoldsRequest path request) :
    ∃ log, preview { request := path } around =
      (previewWith false around request .standard).reporting log := by
  have hstatic : (Vocabulary.ofWord? (word Relation.Source.static) : Option Relation.Source) =
      some .static := by decide
  have hread : readRequest around path = .ok request := by
    obtain ⟨document, hdocument, hrequest⟩ := holdsRequest_iff.1 h
    rw [readRequest, hdocument]
    exact mapError_eq_ok_iff.2 hrequest
  rw [preview, hread]
  simp only [Relation.load, hstatic]
  exact ⟨_, rfl⟩

/-- **The run shows what is due** and ends with its code. -/
theorem preview_of_due {code : ℕ} {items : List Shown} (h : Due around path code items) :
    ∃ log, preview { request := path } around =
      (Run.showing around.console items { ending := .code code }).reporting log := by
  cases h with
  | refusal h =>
    cases h with
    | @unreadable fault hfault hne =>
      refine ⟨[], ?_⟩
      rw [preview, readRequest, hfault]
      cases fault with
      | notUtf8 => exact absurd rfl hne
      | _ => rfl
    | shape hdocument hshape =>
      refine ⟨[], ?_⟩
      rw [preview, readRequest, hdocument]
      simp only [hshape, Except.mapError]
      rfl
    | compiling hrequest hcompile =>
      obtain ⟨log, hrun⟩ := preview_of_holdsRequest hrequest
      refine ⟨log, ?_⟩
      rw [hrun, previewWith, Compiler.compileLogged, hcompile]
      rfl
  | @report r c hrequest hcompile =>
    obtain ⟨log, hrun⟩ := preview_of_holdsRequest hrequest
    refine ⟨log ++ c.log, ?_⟩
    rw [hrun, previewWith, Compiler.compileLogged, hcompile]
    simp [Run.reporting]

/-- Everything that is due is shown to a console that takes it, and the run ends with its code. -/
theorem preview_of_takesAll {code : ℕ} {items : List Shown} (h : Due around path code items)
    (htakes : around.console.TakesAll items) : ∃ log, preview { request := path } around =
      { ending := .code code, shown := items, log } := by
  obtain ⟨log, hrun⟩ := preview_of_due h
  rw [hrun, Run.showing_of_takesAll htakes]
  exact ⟨log, by simp [Run.reporting]⟩

/-- The first thing that the console does not take ends the run, and is not shown. -/
theorem preview_of_fault {code : ℕ} {before after : List Shown} {item : Shown} {fault : String}
    (h : Due around path code (before ++ item :: after)) (hbefore : around.console.TakesAll before)
    (hitem : around.console.fault item = some fault) : ∃ log,
      preview { request := path } around =
        { ending := .broken (.console fault), shown := before, log } := by
  obtain ⟨log, hrun⟩ := preview_of_due h
  rw [hrun, Run.showing_of_fault hbefore hitem]
  exact ⟨log, by simp [Run.reporting]⟩

/-- Octets that are no text break the run off before anything is shown. -/
theorem preview_of_holdsNoText (h : around.directory.HoldsNoText path) :
    preview { request := path } around = .broken .notUtf8 := by
  rw [preview, readRequest, File.readDocument_eq_notUtf8_iff.2 h]

/-! ### What stands at a path -/

/-- **A file holds no text, or something is due for it.** -/
theorem holdsNoText_or_due (around : Surroundings) (path : String) :
    around.directory.HoldsNoText path ∨ ∃ code items, Due around path code items := by
  rcases hdocument : File.readDocument around.directory path with fault | document
  · by_cases hutf8 : fault = .notUtf8
    · exact .inl (File.readDocument_eq_notUtf8_iff.1 (hutf8 ▸ hdocument))
    · exact .inr ⟨_, _, .refusal (.unreadable hdocument hutf8)⟩
  refine .inr ?_
  rcases hshape : Request.ofValue document with faults | request
  · exact ⟨_, _, .refusal (.shape hdocument hshape)⟩
  have hrequest := holdsRequest_iff.2 ⟨document, hdocument, hshape⟩
  rcases hcompile : ({} : Compiler).compile request with e | c
  · exact ⟨_, _, .refusal (.compiling hrequest hcompile)⟩
  · exact ⟨_, _, .report hrequest hcompile⟩

/-- The three ways in which the command comes to its end. -/
theorem path_cases (around : Surroundings) (path : String) :
    around.directory.HoldsNoText path ∨
    (∃ code items, Due around path code items ∧ around.console.TakesAll items) ∨
    ∃ code before item after fault, Due around path code (before ++ item :: after) ∧
      around.console.TakesAll before ∧ around.console.fault item = some fault := by
  rcases holdsNoText_or_due around path with hnoText | ⟨code, items, hdue⟩
  · exact .inl hnoText
  rcases Run.takesAll_or_fault around.console items with
    htakes | ⟨before, item, after, fault, rfl, hbefore, hitem⟩
  · exact .inr (.inl ⟨code, items, hdue, htakes⟩)
  · exact .inr (.inr ⟨code, before, item, after, fault, hdue, hbefore, hitem⟩)

/-- A run ends with a code exactly when that code is due and the console takes all that is due. -/
theorem ending_eq_code_iff {code : ℕ} : (preview { request := path } around).ending = .code code ↔
    ∃ items, Due around path code items ∧ around.console.TakesAll items := by
  constructor
  · intro h
    rcases path_cases around path with
      hnoText | ⟨code', items, hdue, htakes⟩ | ⟨_, _, _, _, _, hdue, hbefore, hitem⟩
    · rw [preview_of_holdsNoText hnoText] at h
      cases h
    · obtain ⟨log, hrun⟩ := preview_of_takesAll hdue htakes
      rw [hrun] at h
      cases h
      exact ⟨items, hdue, htakes⟩
    · obtain ⟨log, hrun⟩ := preview_of_fault hdue hbefore hitem
      rw [hrun] at h
      cases h
  · rintro ⟨items, hdue, htakes⟩
    obtain ⟨log, hrun⟩ := preview_of_takesAll hdue htakes
    rw [hrun]

theorem ending_eq_notUtf8_iff : (preview { request := path } around).ending = .broken .notUtf8 ↔
    around.directory.HoldsNoText path := by
  refine ⟨fun h ↦ ?_, fun h ↦ by rw [preview_of_holdsNoText h, Run.broken]⟩
  rcases path_cases around path with
    hnoText | ⟨_, _, hdue, htakes⟩ | ⟨_, _, _, _, _, hdue, hbefore, hitem⟩
  · exact hnoText
  · obtain ⟨log, hrun⟩ := preview_of_takesAll hdue htakes
    rw [hrun] at h
    cases h
  · obtain ⟨log, hrun⟩ := preview_of_fault hdue hbefore hitem
    rw [hrun] at h
    cases h

/-- A run breaks off with a failure of the console exactly when the console does not take one of the
things that are due, and takes those in front of it. -/
theorem ending_eq_console_iff {fault : String} :
    (preview { request := path } around).ending = .broken (.console fault) ↔
      ∃ code before item after, Due around path code (before ++ item :: after) ∧
        around.console.TakesAll before ∧ around.console.fault item = some fault := by
  constructor
  · intro h
    rcases path_cases around path with
      hnoText | ⟨_, _, hdue, htakes⟩ | ⟨code, before, item, after, _, hdue, hbefore, hitem⟩
    · rw [preview_of_holdsNoText hnoText] at h
      cases h
    · obtain ⟨log, hrun⟩ := preview_of_takesAll hdue htakes
      rw [hrun] at h
      cases h
    · obtain ⟨log, hrun⟩ := preview_of_fault hdue hbefore hitem
      rw [hrun] at h
      cases h
      exact ⟨code, before, item, after, hdue, hbefore, hitem⟩
  · rintro ⟨code, before, item, after, hdue, hbefore, hitem⟩
    obtain ⟨log, hrun⟩ := preview_of_fault hdue hbefore hitem
    rw [hrun]

/-- **Nothing but what is due is shown**, in its order. -/
theorem shown_isPrefix {code : ℕ} {items : List Shown} (h : Due around path code items) :
    (preview { request := path } around).shown <+: items := by
  rcases Run.takesAll_or_fault around.console items with
    htakes | ⟨before, item, after, fault, rfl, hbefore, hitem⟩
  · obtain ⟨log, hrun⟩ := preview_of_takesAll h htakes
    exact hrun ▸ List.prefix_refl items
  · obtain ⟨log, hrun⟩ := preview_of_fault h hbefore hitem
    exact hrun ▸ List.prefix_append before _

/-- A run that ends with a code has shown everything that is due. -/
theorem shown_of_ending_eq_code {code : ℕ}
    (h : (preview { request := path } around).ending = .code code) :
    ∃ items, Due around path code items ∧ (preview { request := path } around).shown = items := by
  obtain ⟨items, hdue, htakes⟩ := ending_eq_code_iff.1 h
  obtain ⟨log, hrun⟩ := preview_of_takesAll hdue htakes
  exact ⟨items, hdue, by rw [hrun]⟩

/-- A preview with the standard relations asks for nothing. -/
theorem trace_preview (around : Surroundings) (path : String) :
    (preview { request := path } around).trace = [] := by
  rcases path_cases around path with
    hnoText | ⟨_, _, hdue, htakes⟩ | ⟨_, _, _, _, _, hdue, hbefore, hitem⟩
  · rw [preview_of_holdsNoText hnoText, Run.broken]
  · obtain ⟨log, hrun⟩ := preview_of_takesAll hdue htakes
    rw [hrun]
  · obtain ⟨log, hrun⟩ := preview_of_fault hdue hbefore hitem
    rw [hrun]

/-! ### What the command comes to -/

/-- The run has the outcome that its path and its console determine. -/
theorem pathOutcome_preview (around : Surroundings) (path : String) :
    PathOutcome around path (preview { request := path } around) where
  succeeds_iff := by
    rw [ending_eq_code_iff]
    -- every field is read off what is due, which is unique
    constructor
    · rintro ⟨_, hdue, htakes⟩
      cases hdue with
      | report hrequest hcompile => exact ⟨_, _, hrequest, hcompile, htakes⟩
    · rintro ⟨request, c, hrequest, hcompile, htakes⟩
      exact ⟨_, .report hrequest hcompile, htakes⟩
  refused_iff := by
    rw [ending_eq_code_iff]
    constructor
    · rintro ⟨_, hdue, htakes⟩
      cases hdue with
      | refusal hrefusal => exact ⟨_, _, hrefusal, htakes⟩
    · rintro ⟨title, message, hrefusal, htakes⟩
      exact ⟨_, .refusal hrefusal, htakes⟩
  notUtf8_iff := ending_eq_notUtf8_iff
  console_iff _ := ending_eq_console_iff
  shows request c hrequest hcompile hending := by
    obtain ⟨items, hdue, hshown⟩ := shown_of_ending_eq_code hending
    cases hdue with
    | report hrequest' hcompile' =>
      obtain rfl := eq_of_holdsRequest hrequest hrequest'
      obtain rfl := Except.ok.inj (hcompile.symm.trans hcompile')
      exact shows_of_shown hcompile hshown
  refusal hending := by
    obtain ⟨items, hdue, hshown⟩ := shown_of_ending_eq_code hending
    cases hdue with
    | refusal hrefusal => exact ⟨_, _, hrefusal, hshown⟩
  breakdown hending := by
    rw [preview_of_holdsNoText (ending_eq_notUtf8_iff.1 hending), Run.broken]
  shown_isPrefix _ _ hdue := shown_isPrefix hdue
  trace_eq_nil := trace_preview around path

/-- On a console that takes everything, whatever else the file holds is refused. -/
theorem ending_of_takesAll (htakes : ∀ item, around.console.fault item = none) :
    let run := preview { request := path } around
    (run.ending = .code 0 ↔ around.directory.HoldsReport path) ∧
    (run.ending = .code 1 ↔
      ¬ around.directory.HoldsReport path ∧ ¬ around.directory.HoldsNoText path) := by
  intro run
  have houtcome := pathOutcome_preview around path
  have hsucceeds : run.ending = .code 0 ↔ around.directory.HoldsReport path := by
    rw [houtcome.succeeds_iff]
    constructor
    · rintro ⟨request, c, hrequest, hcompile, -⟩
      exact ⟨request, c, hrequest, hcompile⟩
    · rintro ⟨request, c, hrequest, hcompile⟩
      exact ⟨request, c, hrequest, hcompile, fun item _ ↦ htakes item⟩
  refine ⟨hsucceeds, ?_⟩
  rw [← hsucceeds, ← houtcome.notUtf8_iff]
  constructor
  · rintro h
    rw [h]
    exact ⟨nofun, nofun⟩
  · rintro ⟨hcode, hutf8⟩
    rcases holdsNoText_or_due around path with hnoText | ⟨code, items, hdue⟩
    · exact absurd (houtcome.notUtf8_iff.2 hnoText) hutf8
    · have hending := ending_eq_code_iff.2 ⟨items, hdue, fun item _ ↦ htakes item⟩
      cases hdue with
      | refusal => exact hending
      | report => exact absurd hending hcode

/-- **The command is decided by what stands at the path, and by its console.** A lone argument is
that path, unless it is an option. On a console that takes everything, a request that compiles is
shown, octets that are no text break the run off, and everything else is refused. -/
theorem preview_path_outcome (path : String) (around : Surroundings) :
    (∀ a, Arguments.read [path] = .ok a ↔
      Word.of? path = some (.plain path) ∧ a = { request := path }) ∧
    PathOutcome around path (preview { request := path } around) ∧
    ((∀ item, around.console.fault item = none) →
      ((preview { request := path } around).ending = .code 0 ↔
        around.directory.HoldsReport path) ∧
      ((preview { request := path } around).ending = .code 1 ↔
        ¬ around.directory.HoldsReport path ∧ ¬ around.directory.HoldsNoText path)) :=
  ⟨fun _ ↦ Arguments.read_singleton_eq_ok_iff, pathOutcome_preview around path,
    ending_of_takesAll⟩

/-- Surroundings with nothing but a file with this content. -/
def onlyRequest (content : ByteArray) : Surroundings where
  directory := .ofFiles [("request.json", content)]

/-- The second table is joined, and the third is left out. -/
example :
    let tables := "\x7b\"tables\": [\"sales\", \"stores\", \"planets\"]\x7d"
    let run := preview { request := "request.json" } (onlyRequest tables.toUTF8)
    run.ending = .code 0 ∧ run.lines = ["[green]✓[/green] Joins resolved: sales → stores"] ∧
    run.rows = [["skipped_table", "planets", "no relation to any of: sales, stores"]] := by
  decide +kernel

/-- Octets that are no text break the run off: it has no exit code, and no error is shown. -/
theorem preview_octetRequest :
    let around := onlyRequest ⟨#[0xff]⟩
    let run := preview { request := "request.json" } around
    Arguments.read ["request.json"] = .ok { request := "request.json" } ∧
    around.directory.HoldsNoText "request.json" ∧
    run.ending = .broken .notUtf8 ∧ (∀ n, run.ending ≠ .code n) ∧ run.errors = [] := by
  have hending : (preview { request := "request.json" } (onlyRequest ⟨#[0xff]⟩)).ending =
      .broken .notUtf8 := by
    decide +kernel
  have hnoText : (onlyRequest ⟨#[0xff]⟩).directory.HoldsNoText "request.json" :=
    ⟨⟨#[0xff]⟩, rfl, by decide +kernel⟩
  refine ⟨Arguments.read_singleton_eq_ok_iff.2 ⟨rfl, rfl⟩, hnoText, hending, fun n h ↦ ?_, ?_⟩
  · nomatch hending.symm.trans h
  · decide +kernel

/-! ### A terminal

A console that reads marks for style, and writes in UTF-8. A mark stands between square brackets and
begins with a letter, with the sign of a colour, or with the slash of a closing mark; a closing mark
needs an open one of its name, or any open one if it has no name. -/

/-- The marks in a text, each without its brackets. The second argument is what has been read of a
mark that may have begun, last character first. -/
def marksFrom : List Char → Option (List Char) → List (List Char)
  | [], _ => []
  | '[' :: s, _ => marksFrom s (some [])
  | ']' :: s, some begun =>
    let mark := begun.reverse
    if mark.head?.any fun c ↦ c.isLower || c = '#' || c = '/' || c = '@' then
      mark :: marksFrom s none
    else marksFrom s none
  | c :: s, begun => marksFrom s (begun.map (c :: ·))

/-- Each closing mark finds an open one. -/
def closesOpened (opened : List (List Char)) : List (List Char) → Bool
  | [] => true
  | ('/' :: name) :: marks =>
    if name = [] then !opened.isEmpty && closesOpened opened.tail marks
    else opened.contains name && closesOpened (opened.erase name) marks
  | mark :: marks => closesOpened (mark :: opened) marks

/-- The texts of a thing in which marks are read. A statement is coloured by its own rules. -/
def Shown.markedTexts : Shown → List String
  | .blank => []
  | .line text => [text]
  | .frame text title border => if border = "yellow" then [title] else [title, text]
  | .table columns title rows => title :: columns ++ rows.flatten
  | .status text => [text]

/-- All texts of a thing. -/
def Shown.texts : Shown → List String
  | .frame text title _ => [title, text]
  | item => item.markedTexts

/-- A terminal takes what it can write and style. -/
def terminal : Console where
  fault item :=
    if item.markedTexts.any fun s ↦ !closesOpened [] (marksFrom s.toList none) then
      some "MarkupError"
    else if item.texts.any Text.hasHalf then some "UnicodeEncodeError"
    else none

/-- An error message can break the run off: the name of a table ends a style that never began, and
the message that names it is not taken. Half of a surrogate pair is not taken either; it is found
with the statement, after the joins were shown. -/
theorem preview_terminal_refuses :
    let unopened := "\x7b\"tables\": [\"[/x]\"]\x7d"
    let halved := "\x7b\"tables\": [\"sales\"], \"filters\": [\x7b\"column\": \"sales.city\", " ++
      "\"value\": \"\\ud800\"\x7d]\x7d"
    let run (text : String) := preview { request := "request.json" }
      { onlyRequest text.toUTF8 with console := terminal }
    (run unopened).ending = .broken (.console "MarkupError") ∧ (run unopened).shown = [] ∧
    (run halved).ending = .broken (.console "UnicodeEncodeError") ∧
    (run halved).shown = [.success "Single table report: sales", .blank] := by
  decide +kernel

/-- **Not every run ends with a code**: a file of octets that are no text breaks it off, and so does
a terminal that refuses the error message that is due, or the statement. -/
theorem preview_ends_without_code :
    Arguments.read ["request.json"] = .ok { request := "request.json" } ∧
    (∀ n, (preview { request := "request.json" } (onlyRequest ⟨#[0xff]⟩)).ending ≠ .code n) ∧
    (preview { request := "request.json" } (onlyRequest ⟨#[0xff]⟩)).errors = [] ∧
    ∃ text : String, ∀ n, (preview { request := "request.json" }
      { onlyRequest text.toUTF8 with console := terminal }).ending ≠ .code n := by
  obtain ⟨hread, -, -, hending, herrors⟩ := preview_octetRequest
  obtain ⟨hunopened, -⟩ := preview_terminal_refuses
  exact ⟨hread, hending, herrors, _, fun n h ↦ nomatch hunopened.symm.trans h⟩

end CommandLine

end ReportQuery
