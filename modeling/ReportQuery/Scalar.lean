import ReportQuery.Value

/-!
# Scalars

The values that a request may compare with and that a table may be named by: null, a truth
value, a number or a text. Scalars are the part of `Value` without structure and without
moments.

Names are compared by `key`: a truth value counts as the number zero or one, and a whole
floating-point number as the integer it equals, so that numbers with one value are one name
whatever form they have.
-/

namespace ReportQuery

/-- A value without structure. -/
inductive Scalar where
  | null
  | bool (b : Bool)
  | int (n : Int)
  | float (x : Binary64)
  | text (s : String)
deriving DecidableEq

namespace Scalar

instance : Inhabited Scalar := ⟨.null⟩

instance : Coe String Scalar := ⟨.text⟩

/-- The scalar as a value. -/
def toValue : Scalar → Value
  | .null => .null
  | .bool b => .bool b
  | .int n => .int n
  | .float x => .float x
  | .text s => .text s

/-- The scalar that a value is, if it is one. -/
def ofValue? : Value → Option Scalar
  | .null => some .null
  | .bool b => some (.bool b)
  | .int n => some (.int n)
  | .float x => some (.float x)
  | .text s => some (.text s)
  | _ => none

/-- The scalar as itself, as in `Value.display`. -/
def display (s : Scalar) : String :=
  s.toValue.display

/-- The representative of all scalars that name the same thing. -/
def key : Scalar → Scalar
  | .bool b => .int (if b then 1 else 0)
  | .float x => (x.toInt?.map Scalar.int).getD (.float x)
  | s => s

/-- Both scalars name the same thing. -/
def sameName (a b : Scalar) : Bool :=
  a.key = b.key

/-! ### Small lemmas -/

@[simp] theorem ofValue?_toValue (s : Scalar) : ofValue? s.toValue = some s := by
  cases s <;> rfl

theorem toValue_of_ofValue? {v : Value} {s : Scalar} (h : ofValue? v = some s) :
    s.toValue = v := by
  cases v <;> simp [ofValue?] at h <;> subst h <;> rfl

@[simp] theorem key_text (s : String) : key (.text s) = .text s := rfl

@[simp] theorem sameName_text (s t : String) : sameName (.text s) (.text t) = (s == t) := by
  simp [sameName, key, Bool.beq_eq_decide_eq]

end Scalar

namespace Value

/-- The value counts as given: it is not null, false, zero or empty. -/
def isGiven : Value → Bool
  | .null => false
  | .bool b => b
  | .int n => n != 0
  | .float x => !x.isZero
  | .text s => s != ""
  | .list items => !items.isEmpty
  | .record fields => !fields.isEmpty
  | _ => true

end Value

end ReportQuery
