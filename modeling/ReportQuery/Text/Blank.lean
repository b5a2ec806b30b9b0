import ReportQuery.Text.Basic

/-!
# Blank characters

The white-space characters of all scripts, together with the four information separators
U+001C to U+001F, which separate words as spaces do. A text is trimmed by taking the blank
characters off both ends, and its words are the maximal runs of other characters.
-/

namespace ReportQuery.Text

/-- Ranges of blank characters, ends included. -/
def blankRanges : List (Nat × Nat) := [
  (0x9, 0xd), (0x1c, 0x20), (0x85, 0x85), (0xa0, 0xa0), (0x1680, 0x1680), (0x2000, 0x200a),
  (0x2028, 0x2029), (0x202f, 0x202f), (0x205f, 0x205f), (0x3000, 0x3000)]

/-- A character that separates words. -/
def isBlank (c : Char) : Bool :=
  inRanges blankRanges c

/-- The text without the blank characters in front. -/
def trimStart (s : List Char) : List Char :=
  s.dropWhile isBlank

/-- The text without the blank characters at either end. -/
def trim (s : List Char) : List Char :=
  (trimStart (trimStart s).reverse).reverse

/-- The maximal runs of characters that are not blank, in order. -/
def words : List Char → List (List Char)
  | [] => []
  | c :: cs =>
    if isBlank c then words cs
    else match cs with
      | [] => [[c]]
      | d :: ds =>
        if isBlank d then [c] :: words (d :: ds)
        else match words (d :: ds) with
          | word :: rest => (c :: word) :: rest
          | [] => [[c]]

/-! ### Small lemmas -/

theorem trimStart_cons (c : Char) (cs : List Char) :
    trimStart (c :: cs) = if isBlank c then trimStart cs else c :: cs := by
  simp [trimStart, List.dropWhile_cons]

/-- A trimmed text starts with no blank character. -/
theorem isBlank_head_trimStart {s : List Char} {c : Char} {cs : List Char}
    (h : trimStart s = c :: cs) : isBlank c = false := by
  induction s with
  | nil => simp [trimStart] at h
  | cons d ds ih =>
    rw [trimStart_cons] at h
    split at h
    · exact ih h
    · next hd => simp_all

end ReportQuery.Text
