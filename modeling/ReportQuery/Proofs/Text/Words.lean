import Mathlib.Logic.ExistsUnique
import ReportQuery.Proofs.Text.Uppercase

/-!
# Words of a text

A text **has** words when it is these words in order, with blank characters around and between them
(`HasWords`). Every text has exactly one list of words, the one that `words` gives
(`existsUnique_hasWords`, `words_eq_iff`), so what is said of a text by its words holds of every
spacing of it.

Putting words together again with single spaces loses nothing: the upper-case form goes through
(`upper_intercalate`), and the text determines the words (`intercalate_inj`). So a rule that cuts
endings off such a text can be compared with a rule on words: `dropEnding_eq_iff` says which texts
have a given result.
-/

namespace ReportQuery.Text

/-! ### Solid texts -/

/-- Some characters, and none of them blank. -/
def IsSolid (w : List Char) : Prop :=
  w ≠ [] ∧ ∀ c ∈ w, isBlank c = false

-- going through the characters of the list, and not through all characters
instance (w : List Char) : Decidable (IsSolid w) :=
  decidable_of_iff (w ≠ [] ∧ w.all (!isBlank ·) = true) (by simp [IsSolid])

theorem IsSolid.space_not_mem {w : List Char} (h : IsSolid w) : ' ' ∉ w :=
  fun hmem ↦ absurd (h.2 _ hmem) (by decide)

theorem IsSolid.cons {c : Char} {w : List Char} (hc : isBlank c = false) (h : IsSolid w) :
    IsSolid (c :: w) :=
  ⟨List.cons_ne_nil _ _, List.forall_mem_cons.2 ⟨hc, h.2⟩⟩

theorem isSolid_singleton {c : Char} (hc : isBlank c = false) : IsSolid [c] :=
  ⟨List.cons_ne_nil _ _, List.forall_mem_singleton.2 hc⟩

/-- The upper-case form of a solid text is solid: no character turns into a blank one. -/
theorem IsSolid.upper {w : List Char} (h : IsSolid w) : IsSolid (upper w) := by
  obtain ⟨hne, hw⟩ := h
  constructor
  · obtain ⟨c, rest, rfl⟩ := List.exists_cons_of_ne_nil hne
    simp [Text.upper, upperChar_ne_nil c]
  · intro d hd
    obtain ⟨c, hc, hdc⟩ := List.mem_flatMap.1 hd
    exact isBlank_of_mem_upperChar (hw c hc) hdc

/-! ### The words that a text has -/

/-- The text is the words, with blank characters in front of each and behind the last; a word ends
where the text ends or a blank character stands. -/
inductive HasWords : List Char → List (List Char) → Prop
  | blank {s : List Char} (h : ∀ c ∈ s, isBlank c = true) : HasWords s []
  | word {b w s : List Char} {ws : List (List Char)} (hb : ∀ c ∈ b, isBlank c = true)
      (hw : IsSolid w) (hgap : ∀ c ∈ s.head?, isBlank c = true) (h : HasWords s ws) :
      HasWords (b ++ (w ++ s)) (w :: ws)

theorem words_cons_of_blank {c : Char} (h : isBlank c = true) (s : List Char) :
    words (c :: s) = words s := by
  cases s <;> simp [words, h]

theorem words_append_of_blank {before : List Char} (h : ∀ c ∈ before, isBlank c = true)
    (s : List Char) : words (before ++ s) = words s := by
  induction before with
  | nil => rfl
  | cons c before ih =>
    obtain ⟨hc, hbefore⟩ := List.forall_mem_cons.1 h
    rw [List.cons_append, words_cons_of_blank hc, ih hbefore]

theorem words_append_of_isSolid {w s : List Char} (hw : IsSolid w)
    (hgap : ∀ c ∈ s.head?, isBlank c = true) : words (w ++ s) = w :: words s := by
  induction w with
  | nil => exact absurd rfl hw.1
  | cons c w ih =>
    obtain ⟨hc, hrest⟩ := List.forall_mem_cons.1 hw.2
    rcases w with - | ⟨d, w⟩
    · rcases s with - | ⟨d, s⟩
      · simp [words, hc]
      · have hd : isBlank d = true := hgap d rfl
        simp [words, hc, hd]
    · have hd : isBlank d = false := hrest d (by simp)
      have ih := ih ⟨List.cons_ne_nil _ _, hrest⟩
      rw [List.cons_append] at ih
      rw [List.cons_append, List.cons_append, words]
      simp [hc, hd, ih]

theorem HasWords.words_eq {s : List Char} {ws : List (List Char)} (h : HasWords s ws) :
    words s = ws := by
  induction h with
  | @blank s h =>
    rw [← List.append_nil s, words_append_of_blank h]
    rfl
  | word hbefore hw hgap _ ih =>
    rw [words_append_of_blank hbefore, words_append_of_isSolid hw hgap, ih]

/-- A text without words is blank. -/
theorem HasWords.forall_isBlank {s : List Char} (h : HasWords s []) :
    ∀ c ∈ s, isBlank c = true := by
  cases h with
  | blank h => exact h

/-- A blank character in front changes nothing. -/
theorem HasWords.cons_blank {c : Char} {s : List Char} {ws : List (List Char)}
    (hc : isBlank c = true) (h : HasWords s ws) : HasWords (c :: s) ws := by
  cases h with
  | blank h => exact .blank (List.forall_mem_cons.2 ⟨hc, h⟩)
  | @word before w s ws hbefore hw hgap h =>
    exact .word (b := c :: before) (List.forall_mem_cons.2 ⟨hc, hbefore⟩) hw hgap h

/-- A character in front of a word belongs to it. -/
theorem HasWords.cons_solid {c d : Char} {s w : List Char} {ws : List (List Char)}
    (hc : isBlank c = false) (hd : isBlank d = false) (h : HasWords (d :: s) (w :: ws)) :
    HasWords (c :: d :: s) ((c :: w) :: ws) := by
  generalize ht : d :: s = t at h
  cases h with
  | @word before w s ws hbefore hw hgap h =>
    rcases before with - | ⟨b, before⟩
    · exact .word (b := []) (List.forall_mem_nil _) (hw.cons hc) hgap h
    · obtain rfl := (List.cons.inj ht).1
      simp [hbefore d (by simp)] at hd

/-- The words that a text has are those of the function, whose cases the proof follows. -/
theorem hasWords_words (s : List Char) : HasWords s (words s) := by
  fun_induction words s with
  | case1 => exact .blank (List.forall_mem_nil _)
  | case2 c cs hc ih => exact ih.cons_blank hc
  | case3 c hc =>
    exact .word (b := []) (List.forall_mem_nil _) (isSolid_singleton (by simpa using hc))
      (by simp) (.blank (List.forall_mem_nil _))
  | case4 c hc d ds hd ih =>
    exact .word (b := []) (List.forall_mem_nil _) (isSolid_singleton (by simpa using hc))
      (by simp [hd]) ih
  | case5 c hc d ds hd w rest hwords ih =>
    rw [hwords] at ih
    exact ih.cons_solid (by simpa using hc) (by simpa using hd)
  | case6 c hc d ds hd hwords ih =>
    rw [hwords] at ih
    exact absurd (ih.forall_isBlank d (by simp)) hd

/-- **A text has exactly one list of words.** -/
theorem words_eq_iff {s : List Char} {ws : List (List Char)} : words s = ws ↔ HasWords s ws :=
  ⟨fun h ↦ h ▸ hasWords_words s, HasWords.words_eq⟩

theorem existsUnique_hasWords (s : List Char) : ∃! ws, HasWords s ws :=
  ⟨words s, hasWords_words s, fun _ h ↦ h.words_eq.symm⟩

theorem HasWords.isSolid {s : List Char} {ws : List (List Char)} (h : HasWords s ws) :
    ∀ w ∈ ws, IsSolid w := by
  induction h with
  | blank => exact List.forall_mem_nil _
  | word _ hw _ _ ih => exact List.forall_mem_cons.2 ⟨hw, ih⟩

/-! ### Words with single spaces between them -/

theorem upper_intercalate (ws : List (List Char)) :
    upper ([' '].intercalate ws) = [' '].intercalate (ws.map upper) := by
  induction ws with
  | nil => rfl
  | cons w ws ih =>
    rcases ws with - | ⟨next, ws⟩
    · simp
    · have hspace : upper [' '] = [' '] := rfl
      rw [List.intercalate_cons_cons, List.map_cons, List.map_cons, List.intercalate_cons_cons,
        ← List.map_cons, ← ih, ← hspace, upper, upper, upper, upper, List.flatMap_append,
        List.flatMap_append]
      rfl

/-- Pieces that hold no separator are determined by the text that is made of them. -/
theorem intercalate_inj {sep : Char} {ws us : List (List Char)} (hws : ws ≠ []) (hus : us ≠ [])
    (hsep : ∀ w ∈ ws, sep ∉ w) (hsep' : ∀ u ∈ us, sep ∉ u) :
    [sep].intercalate ws = [sep].intercalate us ↔ ws = us := by
  refine ⟨fun h ↦ ?_, congrArg _⟩
  rw [← splitAt_intercalate hws hsep, h, splitAt_intercalate hus hsep']

/-- A text of solid words starts with the first character of the first of them. -/
theorem exists_intercalate_cons {w : List Char} (hw : IsSolid w) (ws : List (List Char)) :
    ∃ c rest, [' '].intercalate (w :: ws) = c :: rest ∧ isBlank c = false := by
  obtain ⟨c, w, rfl⟩ := List.exists_cons_of_ne_nil hw.1
  have hc : isBlank c = false := hw.2 c (by simp)
  rcases ws with - | ⟨next, ws⟩
  · exact ⟨c, w, List.intercalate_singleton, hc⟩
  · exact ⟨c, _, by rw [List.intercalate_cons_cons, List.append_assoc, List.cons_append], hc⟩

/-! ### Endings -/

/-- What is left is the text before the ending, or a text that does not end so. -/
theorem dropEnding_eq_iff {ending s t : List Char} :
    dropEnding ending s = t ↔ s = t ++ ending ∨ s = t ∧ ¬ ending <:+ t := by
  rw [dropEnding]
  -- a text that ends in the ending twice is still cut once
  split
  · next h =>
    obtain ⟨front, rfl⟩ := List.isSuffixOf_iff_suffix.1 h
    have htake : (front ++ ending).take ((front ++ ending).length - ending.length) = front := by
      simp
    rw [htake]
    constructor
    · rintro rfl
      exact .inl rfl
    · rintro (h | ⟨rfl, hnot⟩)
      · exact List.append_cancel_right h
      · exact absurd (List.suffix_append front ending) hnot
  · next h =>
    rw [List.isSuffixOf_iff_suffix] at h
    constructor
    · rintro rfl
      exact .inr ⟨rfl, h⟩
    · rintro (rfl | ⟨rfl, -⟩)
      · exact absurd (List.suffix_append t ending) h
      · rfl

/-- An ending that starts with another character leaves the first character of a text. -/
theorem exists_dropEnding_cons {c e : Char} (h : c ≠ e) (ending s : List Char) :
    ∃ t, dropEnding (e :: ending) (c :: s) = c :: t := by
  generalize ht : dropEnding (e :: ending) (c :: s) = t
  rcases dropEnding_eq_iff.1 ht with hs | ⟨rfl, -⟩
  · rcases t with - | ⟨d, t⟩
    · exact absurd (List.cons.inj hs).1 h
    · exact ⟨t, by rw [(List.cons.inj hs).1]⟩
  · exact ⟨s, rfl⟩

end ReportQuery.Text
