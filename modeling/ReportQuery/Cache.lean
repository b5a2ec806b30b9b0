import ReportQuery.Log
import ReportQuery.Vocabulary

/-!
# Reference caches

A reference cache keeps the value of one loader from its first use until it is invalidated. The
loader has a state of its own, which a run may change: what it reads, or how often it ran. The
cache runs its loader only to answer when it has nothing to answer with, and a run that fails
leaves the cache as it was, so that the next request tries again.
-/

namespace ReportQuery

/-- A run of a loader, from the state it starts in to its outcome and the state it ends in. -/
abbrev Loader (σ ε α : Type) := σ → Logged (Except ε α × σ)

namespace Loader

variable {σ ε α : Type}

/-- The loader that reads its state and does not change it. -/
def reading (f : σ → Logged (Except ε α)) : Loader σ ε α :=
  fun s ↦ (f s).map fun outcome ↦ (outcome, s)

/-- The loader whose runs have the given outcomes in turn; its state is the number of runs. -/
def scripted (outcomes : Nat → Except ε α) : Loader Nat ε α :=
  fun n ↦ { value := (outcomes n, n + 1) }

end Loader

/-- Whether a cache holds a value. -/
inductive CacheState where
  | empty | populated
deriving Repr, DecidableEq

instance : Vocabulary CacheState where
  all := [.empty, .populated]
  word
    | .empty => "empty"
    | .populated => "populated"

/-- A cache: what it holds, and how often it was filled. -/
structure ReferenceCache (α : Type) where
  name : String := "reference"
  entry : Option α := none
  loadCount : Nat := 0
deriving Repr, DecidableEq

namespace ReferenceCache

variable {σ ε α : Type}

/-- Whether the cache holds a value. -/
def state (c : ReferenceCache α) : CacheState :=
  if c.entry.isSome then .populated else .empty

/-- The cache with a value that was just loaded. -/
def fill (a : α) (c : ReferenceCache α) : ReferenceCache α :=
  { c with entry := some a, loadCount := c.loadCount + 1 }

/-- The cache without its value. -/
def clear (c : ReferenceCache α) : ReferenceCache α :=
  { c with entry := none }

/-- The entry that reports the last filling. -/
def populatedEntry (c : ReferenceCache α) : LogEntry :=
  ⟨.info, .cache, "Populated " ++ c.name ++ " cache (load #" ++ toString c.loadCount ++ ")"⟩

/-- The entry that reports an invalidation. -/
def invalidatedEntry (c : ReferenceCache α) : LogEntry :=
  ⟨.info, .cache, "Invalidated " ++ c.name ++ " cache"⟩

/-- The value of the cache or, when it holds none, of a run of the loader. -/
def get (load : Loader σ ε α) (c : ReferenceCache α) (s : σ) :
    Logged (Except ε α × ReferenceCache α × σ) :=
  match c.entry with
  | some a => { value := (.ok a, c, s) }
  | none =>
    (load s).andThen fun
      | (.ok a, s) => { value := (.ok a, c.fill a, s), log := [(c.fill a).populatedEntry] }
      | (.error e, s) => { value := (.error e, c, s) }

/-- Drops the value, so that the next request loads it again. -/
def invalidate (c : ReferenceCache α) : Logged (ReferenceCache α) where
  value := c.clear
  log := [c.invalidatedEntry]

/-! ### Histories -/

/-- What is asked of a cache. -/
inductive Step where
  | get | invalidate
deriving Repr, DecidableEq

/-- The answer to one step, the cache after it, and the state of the loader. Only a `get` has an
answer. -/
def step (load : Loader σ ε α) (c : ReferenceCache α) (s : σ) :
    Step → Logged (Option (Except ε α) × ReferenceCache α × σ)
  | .get => (c.get load s).map fun (outcome, c, s) ↦ (some outcome, c, s)
  | .invalidate => c.invalidate.map fun c ↦ (none, c, s)

/-! ### Small lemmas -/

theorem state_eq_populated_iff {c : ReferenceCache α} :
    c.state = .populated ↔ ∃ a, c.entry = some a := by
  rw [state, ← Option.isSome_iff_exists]
  cases c.entry <;> simp

theorem state_eq_empty_iff {c : ReferenceCache α} : c.state = .empty ↔ c.entry = none := by
  rw [state]
  cases c.entry <;> simp

end ReferenceCache

end ReportQuery
