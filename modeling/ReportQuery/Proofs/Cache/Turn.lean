import Mathlib.Data.List.Basic

/-!
# Runs, turn by turn

What happens to a thing with a state is told as a list of **turns**: what was asked, what was
answered, and the states before and after. A law about a run speaks of one turn and of the turns
before it, which are its past.

Most laws about caches have the form "since such a turn there was no such other turn". This is
`Since`, and `since_concat` says how one more turn changes it. The run lemma is `turns_induction`:
what holds of the empty past and survives every turn holds of every past of a run.

The order of a past is that in which things happened, so the last turn stands at the end, and a run
is taken apart from its end. Nothing here knows what the state is or what can be asked.
-/

namespace ReportQuery

variable {σ β α : Type}

/-- A turn of a run. -/
structure Turn (σ β α : Type) where
  before : σ
  asked : β
  answer : α
  after : σ

/-- The turn in which a state is asked something. -/
def Turn.taken (step : σ → β → α × σ) (s : σ) (b : β) : Turn σ β α where
  before := s
  asked := b
  answer := (step s b).1
  after := (step s b).2

/-- The turns of a run from a state, in order. -/
def turns (step : σ → β → α × σ) : σ → List β → List (Turn σ β α)
  | _, [] => []
  | s, b :: bs => .taken step s b :: turns step (Turn.taken step s b).after bs

/-- A turn for everything that is asked. -/
theorem map_asked_turns (step : σ → β → α × σ) (s : σ) (bs : List β) :
    (turns step s bs).map (·.asked) = bs := by
  induction bs generalizing s with
  | nil => rfl
  | cons b bs ih =>
    rw [turns, List.map_cons, ih]
    rfl

/-- **What every turn keeps holds at every turn**, of the turns before it and the state that it
starts in; and the turn is the one that this state takes. -/
theorem turns_induction {step : σ → β → α × σ} {start : σ} (inv : List (Turn σ β α) → σ → Prop)
    (base : inv [] start)
    (keep : ∀ past s b, inv past s → inv (past ++ [.taken step s b]) (Turn.taken step s b).after)
    {bs : List β} {past future : List (Turn σ β α)} {t : Turn σ β α}
    (h : turns step start bs = past ++ t :: future) :
    inv past t.before ∧ t = .taken step t.before t.asked := by
  -- the turns of `past` are taken one by one and join those that are `done`
  suffices ∀ (done : List (Turn σ β α)) (s : σ) (past : List (Turn σ β α)), inv done s →
      turns step s bs = past ++ t :: future →
      inv (done ++ past) t.before ∧ t = .taken step t.before t.asked by
    simpa using this [] start past base h
  clear h base
  induction bs with
  | nil =>
    intro done s past _ h
    cases past <;> cases h
  | cons b bs ih =>
    intro done s past hinv h
    cases past with
    | nil =>
      obtain ⟨rfl, -⟩ := List.cons.inj h
      rw [List.append_nil]
      exact ⟨hinv, rfl⟩
    | cons u past =>
      obtain ⟨rfl, hrest⟩ := List.cons.inj h
      have hnext := ih (done ++ [.taken step s b]) _ past (keep done s b hinv) hrest
      rwa [List.append_assoc, List.singleton_append] at hnext

/-! ### Since -/

variable {τ : Type} {p q : τ → Prop} {past : List τ} {t : τ}

/-- Something has `p`, and nothing after it has `q`. -/
def Since (p q : τ → Prop) (past : List τ) : Prop :=
  ∃ earlier t later, past = earlier ++ t :: later ∧ p t ∧ ∀ u ∈ later, ¬ q u

/-- Nothing has happened since the beginning when nothing has happened. -/
theorem not_since_nil : ¬ Since p q [] := by
  rintro ⟨earlier, t, later, h, -⟩
  cases earlier <;> cases h

/-- **One more turn** starts a new interval, or ends the old one, or lets it go on. -/
theorem since_concat : Since p q (past ++ [t]) ↔ p t ∨ (Since p q past ∧ ¬ q t) := by
  constructor
  · rintro ⟨earlier, u, later, h, hp, hq⟩
    rcases List.eq_nil_or_concat later with rfl | ⟨later, last, rfl⟩
    · obtain ⟨-, hlast⟩ := List.append_inj' h rfl
      obtain rfl : t = u := by simpa using hlast
      exact .inl hp
    · have h' : past ++ [t] = (earlier ++ u :: later) ++ [last] := by simpa using h
      obtain ⟨rfl, hlast⟩ := List.append_inj' h' rfl
      obtain rfl : t = last := by simpa using hlast
      exact .inr ⟨⟨earlier, u, later, rfl, hp, fun v hv ↦ hq v (by simp [hv])⟩, hq t (by simp)⟩
  · rintro (hp | ⟨⟨earlier, u, later, rfl, hp, hq⟩, ht⟩)
    · exact ⟨past, t, [], rfl, hp, by simp⟩
    · refine ⟨earlier, u, later ++ [t], by simp, hp, fun v hv ↦ ?_⟩
      rcases List.mem_append.1 hv with hv | hv
      · exact hq v hv
      · rw [List.mem_singleton.1 hv]
        exact ht

end ReportQuery
