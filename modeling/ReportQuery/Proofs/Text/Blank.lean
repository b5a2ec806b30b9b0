import ReportQuery.Text.Blank
import ReportQuery.Text.Digit

/-!
# Trimming

What `trimStart` and `trim` do to texts whose blank ends are known, and that digits are not blank.
Most facts about classes of characters that the development needs are of one kind: a character of
a class differs from a given character outside it (`ne_of_class`).

Blank characters are those of every script, and so are the digits. The two classes are given by
ranges, and that they are apart is decided range by range (`digits_apart_from_blanks`).
-/

namespace ReportQuery.Text

/-- A character of a class is none that lies outside it. -/
theorem ne_of_class {p : Char → Bool} {c d : Char} (hc : p c = true) (hd : p d = false) :
    c ≠ d := by
  rintro rfl
  simp [hc] at hd

/-- What holds of each character of a list is decided by going through the list. -/
theorem forall_mem_of_all {p : Char → Prop} [DecidablePred p] {l : List Char}
    (h : l.all (fun c ↦ p c) = true) : ∀ c ∈ l, p c := by
  simpa using h

/-- Only capital letters have a lower case of their own. -/
theorem toLower_eq_self {c : Char} (h : c.isUpper = false) : c.toLower = c :=
  dif_neg (of_decide_eq_false h)

/-! ### Blank characters in front -/

theorem trimStart_of_not_blank {c : Char} (h : isBlank c = false) (s : List Char) :
    trimStart (c :: s) = c :: s := by
  rw [trimStart_cons, if_neg (by simp [h])]

theorem trimStart_append {b : List Char} (h : ∀ c ∈ b, isBlank c = true) (s : List Char) :
    trimStart (b ++ s) = trimStart s :=
  List.dropWhile_append_of_pos h

/-- A text is blank characters and what is left when they are taken off. -/
theorem exists_trimStart (s : List Char) :
    ∃ b, (∀ c ∈ b, isBlank c = true) ∧ s = b ++ trimStart s :=
  ⟨s.takeWhile isBlank, List.all_eq_true.1 List.all_takeWhile,
    List.takeWhile_append_dropWhile.symm⟩

theorem trimStart_eq_self {s : List Char} (h : ∀ c ∈ s, isBlank c = false) : trimStart s = s := by
  cases s with
  | nil => rfl
  | cons c s => exact trimStart_of_not_blank (h c (by simp)) s

/-! ### Blank characters at both ends -/

theorem trim_eq_self {s : List Char} (h : ∀ c ∈ s, isBlank c = false) : trim s = s := by
  have hreverse : ∀ c ∈ s.reverse, isBlank c = false := fun c hc ↦ h c (List.mem_reverse.1 hc)
  rw [trim, trimStart_eq_self h, trimStart_eq_self hreverse, List.reverse_reverse]

theorem trimStart_of_blank {s : List Char} (h : ∀ c ∈ s, isBlank c = true) : trimStart s = [] := by
  rw [← List.append_nil s, trimStart_append h]
  rfl

/-- Nothing is left of a blank text. -/
theorem trim_of_blank {s : List Char} (h : ∀ c ∈ s, isBlank c = true) : trim s = [] := by
  rw [trim, trimStart_of_blank h]
  rfl

/-- Blank characters around a text are what trimming takes off. -/
theorem trim_append {before s after : List Char} (hbefore : ∀ c ∈ before, isBlank c = true)
    (hs : ∀ c ∈ s, isBlank c = false) (hafter : ∀ c ∈ after, isBlank c = true) :
    trim (before ++ s ++ after) = s := by
  rw [trim, List.append_assoc, trimStart_append hbefore]
  rcases s with - | ⟨c, s⟩
  · rw [List.nil_append, trimStart_of_blank hafter]
    rfl
  · have hafter' : ∀ c ∈ after.reverse, isBlank c = true :=
      fun c hc ↦ hafter c (List.mem_reverse.1 hc)
    have hs' : ∀ d ∈ (c :: s).reverse, isBlank d = false :=
      fun d hd ↦ hs d (List.mem_reverse.1 hd)
    rw [List.cons_append, trimStart_of_not_blank (hs c (by simp)), ← List.cons_append,
      List.reverse_append, trimStart_append hafter', trimStart_eq_self hs', List.reverse_reverse]

/-- Trimming keeps a first character that is not blank. -/
theorem trim_cons_of_not_blank {c : Char} (h : isBlank c = false) (s : List Char) :
    ∃ t, trim (c :: s) = c :: t := by
  rw [trim, trimStart_of_not_blank h, List.reverse_cons]
  obtain ⟨b, hb, hs⟩ := exists_trimStart s.reverse
  rw [hs, List.append_assoc, trimStart_append hb]
  cases ht : trimStart s.reverse with
  | nil => exact ⟨[], by rw [List.nil_append, trimStart_of_not_blank h]; rfl⟩
  | cons d t =>
    rw [List.cons_append, trimStart_of_not_blank (isBlank_head_trimStart ht)]
    exact ⟨(d :: t).reverse, by simp⟩

/-- Nothing is left exactly of a blank text. -/
theorem trim_eq_nil_iff {s : List Char} : trim s = [] ↔ ∀ c ∈ s, isBlank c = true := by
  refine ⟨fun h ↦ ?_, trim_of_blank⟩
  obtain ⟨b, hb, hs⟩ := exists_trimStart s
  cases ht : trimStart s with
  | nil =>
    rw [ht, List.append_nil] at hs
    exact hs ▸ hb
  | cons c t =>
    have hc := isBlank_head_trimStart ht
    obtain ⟨u, hu⟩ := trim_cons_of_not_blank hc t
    rw [trim, ht, ← trimStart_of_not_blank hc, ← trim, hu] at h
    cases h

/-! ### Digits -/

/-- The runs of digits and the ranges of blank characters lie apart. -/
theorem digits_apart_from_blanks : ∀ start ∈ decimalZeros, ∀ range ∈ blankRanges,
    start + 10 ≤ range.1 ∨ range.2 < start := by
  decide +kernel

theorem isBlank_of_isDecimalDigit {c : Char} (h : isDecimalDigit c = true) :
    isBlank c = false := by
  rw [isDecimalDigit, List.any_eq_true] at h
  obtain ⟨start, hstart, hdigit⟩ := h
  rw [Bool.and_eq_true, decide_eq_true_eq, decide_eq_true_eq] at hdigit
  rw [isBlank, inRanges, List.any_eq_false]
  intro range hrange hblank
  rw [Bool.and_eq_true, decide_eq_true_eq, decide_eq_true_eq] at hblank
  have := digits_apart_from_blanks start hstart range hrange
  omega

/-- The ten basic digits are digits. -/
theorem isDecimalDigit_of_isDigit {c : Char} (h : c.isDigit = true) :
    isDecimalDigit c = true := by
  have hbasic : 0x30 ≤ c.toNat ∧ c.toNat ≤ 0x39 := by
    simpa [Char.isDigit, UInt32.le_iff_toNat_le] using h
  rw [isDecimalDigit, List.any_eq_true]
  refine ⟨0x30, by decide, ?_⟩
  rw [Bool.and_eq_true, decide_eq_true_eq, decide_eq_true_eq]
  omega

end ReportQuery.Text
