import ReportQuery.Cache
import ReportQuery.Proofs.Cache.Turn
import ReportQuery.Scalar

/-!
# A cache is a memo since the last invalidation

A cache is asked for its value and told to drop it, in any order, and its loader succeeds and fails
as it likes. What such a run looks like from outside is told without the entry of the cache: a value
was **loaded since** the last invalidation or it was not (`LoadedSince`), and this alone decides
what a request answers and whether the loader runs (`IsMemo`). The state and the counter of the
cache are read off the past in the same way (`Accounts`).

One turn has four forms (`Taken`): a value is served, loaded or not to be had, or it is dropped.
That the entry is the value loaded since the last invalidation survives each of them
(`Remembers.keep`), whatever the value is; so a value that says nothing is remembered like any
other.

## What the loader may do

Nothing is asked of the loader but that its outcomes are given run by run. It may fail and succeed
in any order, and two runs of it need not agree. A failure is not remembered: the entry stays as it
was, so the next request runs the loader again. This is why `LoadedSince` speaks of turns that
loaded a value and not of turns that asked for one.

The counter goes up with each value that is loaded and never comes down. It is no part of what a
request answers, and `Accounts` keeps it apart from that for this reason.
-/

namespace ReportQuery.ReferenceCache

variable {ε α : Type}

/-! ### What is seen of a run -/

/-- A turn of a cache and its loader. The state of the loader is how often it has run. -/
abbrev ScriptTurn (ε α : Type) := Turn (ReferenceCache α × Nat) Step (Option (Except ε α))

/-- A step of a cache whose loader has the given outcomes in turn. -/
def scriptStep (outcomes : Nat → Except ε α) (s : ReferenceCache α × Nat) (asked : Step) :
    Option (Except ε α) × ReferenceCache α × Nat :=
  (s.1.step (.scripted outcomes) s.2 asked).value

/-- The value of a turn in which the loader ran and succeeded. -/
def loaded? (t : ScriptTurn ε α) : Option α :=
  if t.after.2 = t.before.2 then none
  else match t.answer with
    | some (.ok a) => some a
    | _ => none

/-- The turn answers with an error. -/
def raised (t : ScriptTurn ε α) : Bool :=
  match t.answer with
  | some (.error _) => true
  | _ => false

/-- The value was loaded, and the cache has not been invalidated since. -/
def LoadedSince (past : List (ScriptTurn ε α)) (a : α) : Prop :=
  Since (fun t ↦ loaded? t = some a) (fun t ↦ t.asked = .invalidate) past

/-- The state of the cache, its counter and the number of runs of its loader, by its past. -/
structure Accounts (past : List (ScriptTurn ε α)) (s : ReferenceCache α × Nat) : Prop where
  populated_iff : s.1.state = .populated ↔ ∃ a, LoadedSince past a
  loadCount_eq : s.1.loadCount = past.countP fun t ↦ (loaded? t).isSome
  runs_eq : s.2 = s.1.loadCount + past.countP raised

/-- What a turn answers and when the loader runs, by the past. -/
structure IsMemo (outcomes : Nat → Except ε α) (past : List (ScriptTurn ε α))
    (t : ScriptTurn ε α) : Prop where
  /-- A value that was loaded since the last invalidation is served, and the loader does not run. -/
  served : t.asked = .get → ∀ a, LoadedSince past a →
    t.answer = some (.ok a) ∧ t.after.2 = t.before.2
  /-- When there is none, the loader runs once, and its outcome is the answer. -/
  loaded : t.asked = .get → (∀ a, ¬ LoadedSince past a) →
    t.answer = some (outcomes t.before.2) ∧ t.after.2 = t.before.2 + 1
  /-- An invalidation answers nothing, and the loader does not run. -/
  invalidated : t.asked = .invalidate → t.answer = none ∧ t.after.2 = t.before.2
  /-- A failure leaves the cache as it was. -/
  failed : ∀ e, t.answer = some (.error e) → t.after.1 = t.before.1

/-! ### One turn -/

/-- The four forms of a turn. -/
inductive Taken (outcomes : Nat → Except ε α) : ScriptTurn ε α → Prop
  | served {c n a} (held : c.entry = some a) :
    Taken outcomes ⟨(c, n), .get, some (.ok a), (c, n)⟩
  | loaded {c n a} (empty : c.entry = none) (outcome : outcomes n = .ok a) :
    Taken outcomes ⟨(c, n), .get, some (.ok a), (c.fill a, n + 1)⟩
  | failed {c n e} (empty : c.entry = none) (outcome : outcomes n = .error e) :
    Taken outcomes ⟨(c, n), .get, some (.error e), (c, n + 1)⟩
  | invalidated {c n} : Taken outcomes ⟨(c, n), .invalidate, none, (c.clear, n)⟩

/-- The cache and the number of runs of its loader take each turn of the script as it is written. -/
theorem taken_turn (outcomes : Nat → Except ε α) (s : ReferenceCache α × Nat) (asked : Step) :
    Taken outcomes (.taken (scriptStep outcomes) s asked) := by
  obtain ⟨c, n⟩ := s
  cases asked with
  | invalidate => exact .invalidated
  | get =>
    rcases hentry : c.entry with - | a
    · rcases houtcome : outcomes n with e | a
      · have hturn : Turn.taken (scriptStep outcomes) (c, n) .get =
            ⟨(c, n), .get, some (.error e), (c, n + 1)⟩ := by
          simp only [Turn.taken, scriptStep, step, get, hentry, Loader.scripted, Logged.andThen,
            Logged.map, houtcome]
        rw [hturn]
        exact .failed hentry houtcome
      · have hturn : Turn.taken (scriptStep outcomes) (c, n) .get =
            ⟨(c, n), .get, some (.ok a), (c.fill a, n + 1)⟩ := by
          simp only [Turn.taken, scriptStep, step, get, hentry, Loader.scripted, Logged.andThen,
            Logged.map, houtcome]
        rw [hturn]
        exact .loaded hentry houtcome
    · have hturn : Turn.taken (scriptStep outcomes) (c, n) .get =
          ⟨(c, n), .get, some (.ok a), (c, n)⟩ := by
        simp only [Turn.taken, scriptStep, step, get, hentry, Logged.map]
      rw [hturn]
      exact .served hentry

/-! ### The invariant -/

/-- The cache holds what was loaded since the last invalidation, and the counts are right. -/
structure Remembers (past : List (ScriptTurn ε α)) (s : ReferenceCache α × Nat) : Prop where
  entry_iff : ∀ a, s.1.entry = some a ↔ LoadedSince past a
  loadCount_eq : s.1.loadCount = past.countP fun t ↦ (loaded? t).isSome
  runs_eq : s.2 = s.1.loadCount + past.countP raised

/-- A new cache remembers that nothing has happened. -/
theorem Remembers.start (name : String) :
    Remembers ([] : List (ScriptTurn ε α)) ({ name := name }, 0) where
  entry_iff a := by simp [LoadedSince, not_since_nil]
  loadCount_eq := rfl
  runs_eq := rfl

variable {outcomes : Nat → Except ε α} {past : List (ScriptTurn ε α)} {t : ScriptTurn ε α}

/-- What has been loaded was loaded by the last turn, or before it, and then the last turn is no
invalidation. -/
theorem loadedSince_concat {a : α} : LoadedSince (past ++ [t]) a ↔
    loaded? t = some a ∨ (LoadedSince past a ∧ t.asked ≠ .invalidate) :=
  since_concat

/-- **Every turn keeps what is remembered up to date.** -/
theorem Remembers.keep (h : Remembers past t.before) (ht : Taken outcomes t) :
    Remembers (past ++ [t]) t.after := by
  cases ht with
  | served held =>
    exact {
      entry_iff := fun a ↦ by simpa [loadedSince_concat, loaded?] using h.entry_iff a
      loadCount_eq := by simpa [loaded?] using h.loadCount_eq
      runs_eq := by simpa [raised] using h.runs_eq }
  | @loaded c n a empty outcome =>
    -- nothing was remembered before, so the new value is all there is
    have hnone : ∀ b, ¬ LoadedSince past b := fun b hb ↦ by
      simpa [empty] using (h.entry_iff b).2 hb
    have hruns : n = c.loadCount + past.countP raised := h.runs_eq
    exact {
      entry_iff := fun b ↦ by simp [loadedSince_concat, loaded?, fill, hnone]
      loadCount_eq := by simpa [loaded?, fill] using h.loadCount_eq
      runs_eq := by
        simp only [fill, List.countP_append, List.countP_singleton, raised, if_false,
          Bool.false_eq_true]
        omega }
  | @failed c n e empty outcome =>
    have hruns : n = c.loadCount + past.countP raised := h.runs_eq
    exact {
      entry_iff := fun b ↦ by simpa [loadedSince_concat, loaded?] using h.entry_iff b
      loadCount_eq := by simpa [loaded?] using h.loadCount_eq
      runs_eq := by
        simp only [List.countP_append, List.countP_singleton, raised, if_true]
        omega }
  | invalidated =>
    exact {
      entry_iff := fun b ↦ by simp [loadedSince_concat, loaded?, clear]
      loadCount_eq := by simpa [loaded?, clear] using h.loadCount_eq
      runs_eq := by simpa [raised, clear] using h.runs_eq }

/-- What a cache remembers accounts for its state and its counters. -/
theorem Remembers.accounts {s : ReferenceCache α × Nat} (h : Remembers past s) :
    Accounts past s where
  populated_iff := by rw [state_eq_populated_iff, exists_congr h.entry_iff]
  loadCount_eq := h.loadCount_eq
  runs_eq := h.runs_eq

/-- A cache that remembers acts on what it remembers. -/
theorem Remembers.isMemo (h : Remembers past t.before) (ht : Taken outcomes t) :
    IsMemo outcomes past t := by
  -- in each form of a turn one of the four laws speaks, and the others have no case
  cases ht with
  | @served c n a held =>
    have hlast : LoadedSince past a := (h.entry_iff a).1 held
    constructor
    case served =>
      intro _ b hb
      have hentry : c.entry = some b := (h.entry_iff b).2 hb
      cases held.symm.trans hentry
      exact ⟨rfl, rfl⟩
    case loaded => exact fun _ hnone ↦ absurd hlast (hnone a)
    case invalidated => rintro ⟨⟩
    case failed => rintro e ⟨⟩
  | @loaded c n a empty outcome =>
    constructor
    case served => exact fun _ b hb ↦ by simpa [empty] using (h.entry_iff b).2 hb
    case loaded => exact fun _ _ ↦ ⟨congrArg some outcome.symm, rfl⟩
    case invalidated => rintro ⟨⟩
    case failed => rintro e ⟨⟩
  | @failed c n e empty outcome =>
    constructor
    case served => exact fun _ b hb ↦ by simpa [empty] using (h.entry_iff b).2 hb
    case loaded => exact fun _ _ ↦ ⟨congrArg some outcome.symm, rfl⟩
    case invalidated => rintro ⟨⟩
    case failed => exact fun _ _ ↦ rfl
  | invalidated =>
    constructor
    case served => rintro ⟨⟩
    case loaded => rintro ⟨⟩
    case invalidated => exact fun _ ↦ ⟨rfl, rfl⟩
    case failed => rintro e ⟨⟩

/-! ### Whole runs -/

/-- **A cache is a memo since the last invalidation.** Whatever its loader does and whatever is
asked of it, from the fresh cache on: every turn serves the value that was loaded since the last
invalidation, or runs the loader once when there is none, and a failure changes nothing; and before
and after every turn the state and the counter of the cache and the number of runs of its loader are
those of the past. -/
theorem turns_isMemo (outcomes : Nat → Except ε α) (name : String) (steps : List Step) :
    (turns (scriptStep outcomes) ({ name := name }, 0) steps).map (·.asked) = steps ∧
    ∀ past t future, turns (scriptStep outcomes) ({ name := name }, 0) steps = past ++ t :: future →
      Accounts past t.before ∧ IsMemo outcomes past t ∧ Accounts (past ++ [t]) t.after := by
  refine ⟨map_asked_turns _ _ _, fun past t future h ↦ ?_⟩
  obtain ⟨hpast, ht⟩ := turns_induction Remembers (.start name)
    (fun past s asked hpast ↦ hpast.keep (taken_turn outcomes s asked)) h
  have htaken : Taken outcomes t := ht ▸ taken_turn outcomes t.before t.asked
  exact ⟨hpast.accounts, hpast.isMemo htaken, (hpast.keep htaken).accounts⟩

/-- A loader that fails the first time, finds nothing the second time, and something after that. -/
def lateOutcomes : Nat → Except String Scalar
  | 0 => .error "out of reach"
  | 1 => .ok .null
  | n => .ok (.int n)

/-- The third request is answered with the nothing that the second one loaded, and the loader does
not run. -/
theorem turns_lateOutcomes_isMemo : ∃ past t future,
    turns (scriptStep lateOutcomes) ({ name := "reference" }, 0)
      [.get, .get, .get, .invalidate, .get] = past ++ t :: future ∧
    past.length = 2 ∧ LoadedSince past .null ∧
    t.answer = some (.ok .null) ∧ t.after.2 = t.before.2 := by
  obtain ⟨-, hturns⟩ := turns_isMemo lateOutcomes "reference"
    [.get, .get, .get, .invalidate, .get]
  let run := turns (scriptStep lateOutcomes) ({ name := "reference" }, 0)
    [.get, .get, .get, .invalidate, .get]
  have hrun : run = run.take 2 ++ run[2] :: run.drop 3 := rfl
  have hlast : LoadedSince (run.take 2) .null := ⟨[run[0]], run[1], [], rfl, rfl, by simp⟩
  obtain ⟨-, hmemo, -⟩ := hturns _ _ _ hrun
  obtain ⟨hanswer, hruns⟩ := hmemo.served rfl .null hlast
  exact ⟨_, _, _, hrun, rfl, hlast, hanswer, hruns⟩

end ReportQuery.ReferenceCache
