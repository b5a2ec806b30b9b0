/-!
# Halves of surrogate pairs

A text is a sequence of code points, and half of a surrogate pair is a code point like any other:
an escape in a JSON text may name it alone, and it is kept as it is. A character is never such a
half. So texts are written in characters. A half is written as a mark with a character of a
private plane behind it; a mark that belongs to the text is written twice; any other code point
is written as its character. The writing can be read again (`points`).

The mark and the characters behind it are no letters, digits or blanks, have no other case and
are not printable. So are the halves, and a rule on characters finds in the writing what it would
find in the text.

A text with a half in it has no form in UTF-8, and cannot be sent anywhere.
-/

namespace ReportQuery.Text

/-- The code point is half of a surrogate pair. -/
def isHalf (n : Nat) : Bool :=
  0xd800 ≤ n && n < 0xe000

/-- The mark: the last code point, which is assigned to nothing. -/
def mark : Char := Char.ofNat 0x10ffff

/-- The character that a half is written as, behind a mark. -/
def standIn (half : Nat) : Char :=
  Char.ofNat (0x100000 + (half - 0xd800))

/-- A code point in characters. -/
def written (n : Nat) : List Char :=
  if isHalf n then [mark, standIn n]
  else if n = mark.toNat then [mark, mark]
  else [Char.ofNat n]

/-- The code point that a mark and the character behind it are written for. -/
def marked? (c : Char) : Option Nat :=
  if c = mark then some mark.toNat
  else if 0x100000 ≤ c.toNat ∧ c.toNat < 0x100800 then some (0xd800 + (c.toNat - 0x100000))
  else none

/-- The code points of a text. A mark that nothing fits behind stands for itself. -/
def points : List Char → List Nat
  | [] => []
  | [c] => [c.toNat]
  | c :: d :: s =>
    match if c = mark then marked? d else none with
    | some n => n :: points s
    | none => c.toNat :: points (d :: s)

/-- The text has half of a surrogate pair in it. -/
def hasHalf (s : String) : Bool :=
  (points s.toList).any isHalf

/-! ### Small lemmas -/

theorem toNat_ofNat {n : Nat} (hn : n < 0x110000) (hhalf : isHalf n = false) :
    (Char.ofNat n).toNat = n := by
  have hvalid : n.isValidChar := by
    simp only [isHalf, Bool.and_eq_false_iff, decide_eq_false_iff_not] at hhalf
    rw [Nat.isValidChar]
    omega
  rw [Char.ofNat, dif_pos hvalid]
  rfl

theorem points_cons_of_ne_mark {c : Char} (h : c ≠ mark) (s : List Char) :
    points (c :: s) = c.toNat :: points s := by
  cases s with
  | nil => rfl
  | cons d s => simp only [points, if_neg h]

theorem points_mark_cons {c : Char} {n : Nat} (h : marked? c = some n) (s : List Char) :
    points (mark :: c :: s) = n :: points s := by
  simp only [points, if_pos, h]

theorem marked?_standIn {n : Nat} (h : isHalf n = true) : marked? (standIn n) = some n := by
  simp only [isHalf, Bool.and_eq_true, decide_eq_true_eq] at h
  have htoNat : (standIn n).toNat = 0x100000 + (n - 0xd800) :=
    toNat_ofNat (by omega) (by simp [isHalf]; omega)
  have hmark : mark.toNat = 0x10ffff := by decide
  have hne : standIn n ≠ mark := by
    intro heq
    rw [heq] at htoNat
    omega
  rw [marked?, if_neg hne, htoNat, if_pos (by omega)]
  exact congrArg some (by omega)

/-- A code point is read again in front of any text. -/
theorem points_written_append {n : Nat} (hn : n < 0x110000) (s : List Char) :
    points (written n ++ s) = n :: points s := by
  rw [written]
  split
  case isTrue hhalf => exact points_mark_cons (marked?_standIn hhalf) s
  case isFalse hhalf =>
    have htoNat : (Char.ofNat n).toNat = n := toNat_ofNat hn (by simpa using hhalf)
    split
    case isTrue hmark =>
      rw [hmark]
      exact points_mark_cons (by rw [marked?, if_pos rfl]) s
    case isFalse hmark =>
      have hne : Char.ofNat n ≠ mark := fun heq ↦ hmark (by rw [← htoNat, heq])
      rw [List.singleton_append, points_cons_of_ne_mark hne, htoNat]

/-- **Every sequence of code points has its own writing**, halves and marks included. -/
theorem points_flatMap_written {ns : List Nat} (h : ∀ n ∈ ns, n < 0x110000) :
    points (ns.flatMap written) = ns := by
  induction ns with
  | nil => rfl
  | cons n ns ih =>
    obtain ⟨hn, hns⟩ := List.forall_mem_cons.1 h
    rw [List.flatMap_cons, points_written_append hn, ih hns]

end ReportQuery.Text
