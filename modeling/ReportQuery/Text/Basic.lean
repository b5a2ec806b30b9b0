/-!
# Texts as lists of characters

Rules on texts are stated on lists of characters, so that each is a recursion on its input.
This file holds the cuts: at a separating character, and after the last one.
-/

namespace ReportQuery.Text

/-- The code point of `c` lies in one of the ranges, ends included. -/
def inRanges (ranges : List (Nat × Nat)) (c : Char) : Bool :=
  ranges.any fun range ↦ range.1 ≤ c.toNat && c.toNat ≤ range.2

/-- The pieces between the occurrences of `sep`: always one more than there are occurrences. -/
def splitAt (sep : Char) : List Char → List (List Char)
  | [] => [[]]
  | c :: cs =>
    if c = sep then [] :: splitAt sep cs
    else match splitAt sep cs with
      | piece :: pieces => (c :: piece) :: pieces
      | [] => [[c]]

/-- The piece after the last occurrence of `sep`, or everything when there is none. -/
def afterLast (sep : Char) (s : List Char) : List Char :=
  (s.reverse.takeWhile (· ≠ sep)).reverse

/-- The text without `ending`, when it ends so. -/
def dropEnding (ending s : List Char) : List Char :=
  if ending.isSuffixOf s then s.take (s.length - ending.length) else s

/-- The text `needle` occurs in the given one as a run of neighbouring characters. -/
def occursIn (needle : List Char) : List Char → Bool
  | [] => needle.isEmpty
  | c :: cs => needle.isPrefixOf (c :: cs) || occursIn needle cs

/-! ### Small lemmas -/

theorem splitAt_ne_nil (sep : Char) (s : List Char) : splitAt sep s ≠ [] := by
  induction s with
  | nil => simp [splitAt]
  | cons c cs ih =>
    rw [splitAt]
    split
    · simp
    · split <;> simp

/-- Putting the separator back between the pieces gives the text again. -/
theorem intercalate_splitAt (sep : Char) (s : List Char) :
    [sep].intercalate (splitAt sep s) = s := by
  induction s with
  | nil => simp [splitAt]
  | cons c cs ih =>
    rw [splitAt]
    have hne := splitAt_ne_nil sep cs
    split
    · next h =>
      subst h
      cases hp : splitAt c cs with
      | nil => exact absurd hp hne
      | cons piece pieces =>
        rw [hp] at ih
        simp [List.intercalate_cons_cons, ih]
    · cases hp : splitAt sep cs with
      | nil => exact absurd hp hne
      | cons piece pieces =>
        rw [hp] at ih
        cases pieces with
        | nil => simpa using ih
        | cons p ps => simpa [List.intercalate_cons_cons] using ih

/-- A piece that holds no separator is cut off at the first one. -/
theorem splitAt_append {sep : Char} {piece : List Char} (h : sep ∉ piece) (s : List Char) :
    splitAt sep (piece ++ sep :: s) = piece :: splitAt sep s := by
  induction piece with
  | nil => simp [splitAt]
  | cons c piece ih =>
    rw [List.mem_cons, not_or] at h
    rw [List.cons_append, splitAt, if_neg (Ne.symm h.1), ih h.2]

theorem splitAt_eq_singleton {sep : Char} {s : List Char} (h : sep ∉ s) :
    splitAt sep s = [s] := by
  induction s with
  | nil => rfl
  | cons c s ih =>
    rw [List.mem_cons, not_or] at h
    rw [splitAt, if_neg (Ne.symm h.1), ih h.2]

/-- Pieces that hold no separator are found again between the separators. -/
theorem splitAt_intercalate {sep : Char} {pieces : List (List Char)} (hne : pieces ≠ [])
    (h : ∀ piece ∈ pieces, sep ∉ piece) : splitAt sep ([sep].intercalate pieces) = pieces := by
  induction pieces with
  | nil => exact absurd rfl hne
  | cons piece pieces ih =>
    obtain ⟨hpiece, hpieces⟩ := List.forall_mem_cons.1 h
    rcases pieces with - | ⟨next, rest⟩
    · rw [List.intercalate_singleton, splitAt_eq_singleton hpiece]
    · rw [List.intercalate_cons_cons, List.append_assoc, List.singleton_append,
        splitAt_append hpiece, ih (List.cons_ne_nil _ _) hpieces]

end ReportQuery.Text
