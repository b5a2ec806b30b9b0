import ReportQuery.Fault
import ReportQuery.Record
import ReportQuery.Scalar
import ReportQuery.Vocabulary

/-!
# Checked values

Reading a part of a document either gives a value or lists the faults that prevent it. Checks
are built from checks: side by side, where both report; inside a field or an element, where the
paths grow by a step; and as alternatives, where the faults of all are listed when none succeeds.
Nothing is converted between kinds: a number is no text and a truth value is no number.
-/

namespace ReportQuery

/-- A value, or the faults that prevent it. -/
abbrev Checked (α : Type) := Except (List Fault) α

namespace Checked

variable {α β : Type}

/-- The value cannot be had, for one reason at the place itself. -/
def fault (kind : FaultKind) : Checked α :=
  .error [⟨[], kind⟩]

/-- Two checks side by side; the faults of both are kept, those of the first in front. -/
def both (a : Checked α) (b : Checked β) : Checked (α × β) :=
  match a, b with
  | .ok a, .ok b => .ok (a, b)
  | .error es, .ok _ => .error es
  | .ok _, .error es => .error es
  | .error es, .error es' => .error (es ++ es')

/-- The same check, one step further from the root. -/
def inside (step : PathStep) (a : Checked α) : Checked α :=
  match a with
  | .ok a => .ok a
  | .error es => .error (es.map fun e ↦ { e with path := step :: e.path })

/-- The first alternative that succeeds, or the faults of both. -/
def orElse (a b : Checked α) : Checked α :=
  match a with
  | .ok a => .ok a
  | .error es =>
    match b with
    | .ok b => .ok b
    | .error es' => .error (es ++ es')

/-- Checks the elements of a list, the first of which has the given index. -/
def eachFrom (check : Value → Checked α) : Nat → List Value → Checked (List α)
  | _, [] => .ok []
  | n, v :: vs =>
    (both (inside (.index n) (check v)) (eachFrom check (n + 1) vs)).map fun (a, as) ↦ a :: as

/-! ### Checks of simple values -/

/-- A text. -/
def text : Value → Checked String
  | .text s => .ok s
  | _ => fault .notText

/-- A value that may be null. -/
def nullable (check : Value → Checked α) : Value → Checked (Option α)
  | .null => .ok none
  | v => (check v).map some

/-- A list with elements of one kind. -/
def list (check : Value → Checked α) : Value → Checked (List α)
  | .list items => eachFrom check 0 items
  | _ => fault .notList

/-- A member of a vocabulary, by its word. -/
def member (α : Type) [Vocabulary α] (v : Value) : Checked α :=
  let refused : Checked α := fault (.notAmong (Vocabulary.words α))
  match v with
  | .text s => ((Vocabulary.ofWord? s).map Except.ok).getD refused
  | _ => refused

/-- The word itself. -/
def theWord (w : String) : Value → Checked Unit
  | .text s => if s = w then .ok () else fault (.notTheWord w)
  | _ => fault (.notTheWord w)

/-- A scalar. What is none lacks all four kinds. -/
def scalar (v : Value) : Checked Scalar :=
  match Scalar.ofValue? v with
  | some s => .ok s
  | none => .error [⟨[.key "str"], .notText⟩, ⟨[.key "int"], .notInteger⟩,
      ⟨[.key "float"], .notNumber⟩, ⟨[.key "bool"], .notTruthValue⟩]

/-! ### Checks of records -/

/-- The fields of a record; the shape is named when there is none. -/
def fieldsOf (shape : String) : Value → Checked (List (String × Value))
  | .record fields => .ok fields
  | _ => fault (.notRecord shape)

/-- The first of the keys that is present, with its value. -/
def findField (keys : List String) (fields : List (String × Value)) : Option (String × Value) :=
  keys.findSome? fun key ↦ (fields.lookup key).map (key, ·)

/-- A field that may be left out. -/
def optional (keys : List String) (fallback : α) (check : Value → Checked α)
    (fields : List (String × Value)) : Checked α :=
  match findField keys fields with
  | some (key, v) => inside (.key key) (check v)
  | none => .ok fallback

/-- A field that has to be given. -/
def required (key : String) (check : Value → Checked α)
    (fields : List (String × Value)) : Checked α :=
  match fields.lookup key with
  | some v => inside (.key key) (check v)
  | none => inside (.key key) (fault .missing)

/-- An alternative of several, by its name. -/
def named (name : String) (check : Value → Checked α) (v : Value) : Checked α :=
  inside (.key name) (check v)

/-! ### Small lemmas -/

@[simp] theorem both_eq_ok_iff {a : Checked α} {b : Checked β} {x : α} {y : β} :
    both a b = .ok (x, y) ↔ a = .ok x ∧ b = .ok y := by
  cases a <;> cases b <;> simp [both]

@[simp] theorem inside_eq_ok_iff {step : PathStep} {a : Checked α} {x : α} :
    inside step a = .ok x ↔ a = .ok x := by
  cases a <;> simp [inside]

end Checked

end ReportQuery
