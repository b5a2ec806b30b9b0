import Mathlib.Data.List.Forall2
import Mathlib.Data.Option.Basic
import ReportQuery.Checked
import ReportQuery.Proofs.Except

/-!
# Checks that follow one another

Two parts of a document that are written differently may mean the same. A check of the second
**follows** a check of the first when it has a value wherever the first has one, and the two values
are related (`Checked.Follows`). Faults are not compared: where the first check fails, nothing is
said.

Every way of building checks from checks keeps this: side by side (`Follows.both`), under a key that
may be left out (`Follows.optional`), element by element (`Follows.list`), and one after the other
(`Follows.bind`). So a check of a whole document follows another as soon as the checks of its parts
do, whatever relation the parts stand in.

The relation on values is a parameter throughout, and it may be another one for each part. For a
part that is not written differently it is equality. A check of a part with two forms is compared
with itself on the two forms; that is the only thing that has to be looked at where a document may
be respelled.
-/

namespace ReportQuery.Checked

/-! ### Records that correspond -/

/-- The fields of two records correspond: they have the same keys in the same order, and what stands
under a key is related as the key allows. -/
def SameKeys (R : String → Value → Value → Prop) :
    List (String × Value) → List (String × Value) → Prop :=
  List.Forall₂ fun field field' ↦ field.1 = field'.1 ∧ R field.1 field.2 field'.2

variable {R : String → Value → Value → Prop} {fields fields' : List (String × Value)}

/-- Records with the same keys agree on whether a key is there, and what stands under it is related.
-/
theorem lookup_sameKeys (h : SameKeys R fields fields') (key : String) :
    Option.Rel (R key) (fields.lookup key) (fields'.lookup key) := by
  induction h with
  | nil => exact .none
  | @cons field field' rest rest' hfield _ ih =>
    obtain ⟨k, v⟩ := field
    obtain ⟨k', v'⟩ := field'
    obtain ⟨rfl, hv⟩ := hfield
    by_cases hk : key = k
    · subst hk
      simpa using Option.Rel.some hv
    · simpa [List.lookup_cons, show (key == k) = false by simpa using hk] using ih

/-- What is found under the first key that is present is found there in both. -/
theorem findField_sameKeys (h : SameKeys R fields fields') (keys : List String) :
    Option.Rel (fun f f' ↦ f.1 = f'.1 ∧ R f.1 f.2 f'.2) (findField keys fields)
      (findField keys fields') := by
  induction keys with
  | nil => exact .none
  | cons key keys ih =>
    have hlookup := lookup_sameKeys h key
    rw [findField, findField, List.findSome?_cons, List.findSome?_cons]
    rcases hx : fields.lookup key with - | v <;> rcases hy : fields'.lookup key with - | v' <;>
      rw [hx, hy] at hlookup
    case none.none => exact ih
    case none.some => cases hlookup
    case some.none => cases hlookup
    case some.some =>
      cases hlookup with
      | some hv => exact .some ⟨rfl, hv⟩

/-- A field that is found has one of the keys that were looked for. -/
theorem mem_of_findField {keys : List String} {key : String} {v : Value}
    (h : findField keys fields = some (key, v)) : key ∈ keys := by
  obtain ⟨k, hk, hfound⟩ := List.exists_of_findSome?_eq_some h
  obtain ⟨w, -, hw⟩ := Option.map_eq_some_iff.1 hfound
  cases hw
  exact hk

/-! ### Checks of related parts -/

variable {α β γ δ : Type} {P : α → β → Prop} {Q : γ → δ → Prop}

/-- Where the first check has a value, so has the second, and the values are related. -/
def Follows (P : α → β → Prop) (x : Checked α) (y : Checked β) : Prop :=
  ∀ a, x = .ok a → ∃ b, y = .ok b ∧ P a b

namespace Follows

/-- A check follows itself where the relation is reflexive. -/
theorem refl {P : α → α → Prop} (hP : ∀ a, P a a) (x : Checked α) : Follows P x x :=
  fun a h ↦ ⟨a, h, hP a⟩

theorem ok {a : α} {b : β} (h : P a b) : Follows P (.ok a) (.ok b) := by
  rintro _ ⟨⟩
  exact ⟨b, rfl, h⟩

/-- **Checks in a row follow one another** when each does, on related results. -/
theorem bind {x : Checked α} {y : Checked β} {f : α → Checked γ} {g : β → Checked δ}
    (h : Follows P x y) (hfg : ∀ a b, P a b → Follows Q (f a) (g b)) :
    Follows Q (x >>= f) (y >>= g) := by
  intro c hc
  obtain ⟨a, hx, hf⟩ := bind_eq_ok_iff.1 hc
  obtain ⟨b, hy, hab⟩ := h a hx
  obtain ⟨d, hg, hcd⟩ := hfg a b hab c hf
  exact ⟨d, bind_eq_ok_iff.2 ⟨b, hy, hg⟩, hcd⟩

theorem map {x : Checked α} {y : Checked β} {f : α → γ} {g : β → δ} (h : Follows P x y)
    (hfg : ∀ a b, P a b → Q (f a) (g b)) : Follows Q (x.map f) (y.map g) := by
  intro c hc
  obtain ⟨a, hx, rfl⟩ := map_eq_ok_iff.1 hc
  obtain ⟨b, hy, hab⟩ := h a hx
  exact ⟨g b, map_eq_ok_iff.2 ⟨b, hy, rfl⟩, hfg a b hab⟩

/-- Two checks side by side follow two others when each follows its own. -/
theorem both {x : Checked α} {y : Checked β} {x' : Checked γ} {y' : Checked δ}
    (h : Follows P x y) (h' : Follows Q x' y') :
    Follows (fun a b ↦ P a.1 b.1 ∧ Q a.2 b.2) (Checked.both x x') (Checked.both y y') := by
  rintro ⟨a, c⟩ hac
  obtain ⟨hx, hx'⟩ := both_eq_ok_iff.1 hac
  obtain ⟨b, hy, hab⟩ := h a hx
  obtain ⟨d, hy', hcd⟩ := h' c hx'
  exact ⟨(b, d), both_eq_ok_iff.2 ⟨hy, hy'⟩, hab, hcd⟩

/-- The place at which a check is made does not matter. -/
theorem inside {x : Checked α} {y : Checked β} (h : Follows P x y) (step step' : PathStep) :
    Follows P (Checked.inside step x) (Checked.inside step' y) := by
  intro a ha
  obtain ⟨b, hb, hab⟩ := h a (inside_eq_ok_iff.1 ha)
  exact ⟨b, inside_eq_ok_iff.2 hb, hab⟩

/-- Lists are followed element by element. -/
theorem eachFrom {R : Value → Value → Prop} {check : Value → Checked α}
    {check' : Value → Checked β} (hcheck : ∀ v v', R v v' → Follows P (check v) (check' v'))
    {vs vs' : List Value} (h : List.Forall₂ R vs vs') (n : Nat) :
    Follows (List.Forall₂ P) (Checked.eachFrom check n vs) (Checked.eachFrom check' n vs') := by
  induction h generalizing n with
  | nil => exact .ok .nil
  | cons hv _ ih =>
    exact (((hcheck _ _ hv).inside _ _).both (ih (n + 1))).map fun _ _ hab ↦ .cons hab.1 hab.2

theorem list {R : Value → Value → Prop} {check : Value → Checked α} {check' : Value → Checked β}
    (hcheck : ∀ v v', R v v' → Follows P (check v) (check' v')) {vs vs' : List Value}
    (h : List.Forall₂ R vs vs') :
    Follows (List.Forall₂ P) (Checked.list check (.list vs)) (Checked.list check' (.list vs')) :=
  eachFrom hcheck h 0

/-- A field that may be left out is left out in both records, or stands under the same key. -/
theorem optional {keys : List String} {fallback : α} {fallback' : β} {check : Value → Checked α}
    {check' : Value → Checked β} (hfields : SameKeys R fields fields')
    (hcheck : ∀ key ∈ keys, ∀ v v', R key v v' → Follows P (check v) (check' v'))
    (hfallback : P fallback fallback') :
    Follows P (Checked.optional keys fallback check fields)
      (Checked.optional keys fallback' check' fields') := by
  have hfind := findField_sameKeys hfields keys
  rw [Checked.optional, Checked.optional]
  rcases hx : findField keys fields with - | ⟨key, v⟩ <;>
    rcases hy : findField keys fields' with - | ⟨key', v'⟩ <;> rw [hx, hy] at hfind
  case none.none => exact .ok hfallback
  case none.some => cases hfind
  case some.none => cases hfind
  case some.some =>
    cases hfind with
    | some hfield =>
      exact (hcheck key (mem_of_findField hx) v v' hfield.2).inside _ _

end Follows

end ReportQuery.Checked
