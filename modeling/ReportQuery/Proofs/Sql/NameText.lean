import ReportQuery.Proofs.Text.Blank
import ReportQuery.Sql.Name
import ReportQuery.Sql.Operand
import ReportQuery.Text.Word

/-!
# Texts that stand for names

What is known of a text once it is accepted as the name of a table or a column, or once it is read
as an aggregate. Names reach a statement by several roads: accepted by their form, written by the
graph of relations, or made from an untagged text in lower case. All of them consist of
**reference characters**: basic letters and digits, the underscore, the point, a line feed, and
characters beyond the basic ones.

An aggregate has blank characters between its parts, and these are kept. `AggregateForm` names
the parts.

## Why one class is enough

No reference character is a quote, a semicolon, a slash, a dash, or one of the basic blank
characters but the line feed. Whatever has to be known of a name inside a statement follows from
that, so the roads by which names arrive can be forgotten. Ranges of code points decide most
questions about single characters (`isColumnPart_bounds`, `isBlank_bounds`); the classes themselves
are not opened again.
-/

namespace ReportQuery.Sql

/-! ### Reference characters -/

/-- A character of a name as it stands in a statement. -/
def isReferenceChar (c : Char) : Bool :=
  isColumnPart c || c = '\n' || 0x80 ≤ c.toNat

theorem isReferenceChar_of_isColumnPart {c : Char} (h : isColumnPart c = true) :
    isReferenceChar c = true := by
  simp [isReferenceChar, h]

theorem isColumnPart_of_isNamePart {c : Char} (h : isNamePart c = true) :
    isColumnPart c = true := by
  simp [isColumnPart, h]

theorem isColumnPart_of_isAlpha {c : Char} (h : c.isAlpha = true) : isColumnPart c = true := by
  simp [isColumnPart, isNamePart, Char.isAlphanum, h]

theorem isReferenceChar_of_isWordChar {c : Char} (h : Text.isWordChar c = true) :
    isReferenceChar c = true := by
  rw [isReferenceChar, Bool.or_eq_true, Bool.or_eq_true]
  rw [Text.isWordChar, Bool.or_eq_true, Text.isAlphanumeric] at h
  by_cases hbasic : c.toNat < 0x80
  · rw [if_pos hbasic] at h
    rcases h with h | h
    · rw [of_decide_eq_true h]
      decide
    · exact .inl (.inl (isColumnPart_of_isNamePart (by simp [isNamePart, h])))
  · exact .inr (by simpa using hbasic)

/-- The characters of names are in the range of the point and the basic letters. -/
theorem isColumnPart_bounds {c : Char} (h : isColumnPart c = true) :
    0x2e ≤ c.toNat ∧ c.toNat < 0x80 := by
  have hclass : isColumnPart c = ((((decide (c.val ≥ 65 ∧ c.val ≤ 90) ||
      (decide (c.val ≥ 97) && decide (c.val ≤ 122))) ||
      (decide (c.val ≥ 48) && decide (c.val ≤ 57))) || decide (c = '_')) || decide (c = '.')) := rfl
  rw [hclass] at h
  simp only [Bool.or_eq_true, Bool.and_eq_true, decide_eq_true_eq, ge_iff_le,
    UInt32.le_iff_toNat_le] at h
  change ((((65 ≤ c.toNat ∧ c.toNat ≤ 90) ∨ (97 ≤ c.toNat ∧ c.toNat ≤ 122)) ∨
    (48 ≤ c.toNat ∧ c.toNat ≤ 57)) ∨ c = '_') ∨ c = '.' at h
  rcases h with (((h | h) | h) | rfl) | rfl
  · omega
  · omega
  · omega
  · decide
  · decide

/-- And no blank character is in that range. -/
theorem isBlank_bounds {c : Char} (h : Text.isBlank c = true) :
    c.toNat ≤ 0x20 ∨ 0x80 ≤ c.toNat := by
  rw [Text.isBlank, Text.inRanges, List.any_eq_true] at h
  obtain ⟨range, hrange, hc⟩ := h
  rw [Bool.and_eq_true, decide_eq_true_eq, decide_eq_true_eq] at hc
  have hlimits : ∀ range ∈ Text.blankRanges, range.2 ≤ 0x20 ∨ 0x80 ≤ range.1 := by decide
  rcases hlimits range hrange with h | h
  · exact .inl (by omega)
  · exact .inr (by omega)

/-- Name characters are not blank. -/
theorem isBlank_of_isColumnPart {c : Char} (h : isColumnPart c = true) :
    Text.isBlank c = false := by
  have hbounds := isColumnPart_bounds h
  rw [Bool.eq_false_iff]
  intro hblank
  have := isBlank_bounds hblank
  omega

/-! ### Accepted names -/

/-- A text is its part without a final line feed, and perhaps that line feed. -/
theorem exists_dropFinalNewline (s : List Char) :
    s = dropFinalNewline s ∨ s = dropFinalNewline s ++ ['\n'] := by
  rw [dropFinalNewline]
  split
  · next h =>
    obtain ⟨t, rfl⟩ := List.getLast?_eq_some_iff.1 h
    exact .inr (by rw [List.dropLast_concat])
  · exact .inl rfl

theorem dropFinalNewline_eq_self {s : List Char} (h : '\n' ∉ s) : dropFinalNewline s = s :=
  if_neg fun hlast ↦ h (List.mem_of_getLast? hlast)

/-- One line feed at the end is left out. -/
theorem dropFinalNewline_append (s : List Char) : dropFinalNewline (s ++ ['\n']) = s := by
  rw [dropFinalNewline, if_pos List.getLast?_concat, List.dropLast_concat]

theorem isNamePart_of_isNameStart {c : Char} (h : isNameStart c = true) : isNamePart c = true := by
  simp only [isNameStart, isNamePart, Char.isAlphanum, Bool.or_eq_true] at h ⊢
  rcases h with h | h
  · exact .inl (.inl h)
  · exact .inr h

/-- A plain name consists of letters, digits and underscores. -/
theorem isNamePart_of_isPlainName {s : List Char} (h : isPlainName s = true) :
    ∀ c ∈ s, isNamePart c = true := by
  cases s with
  | nil => simp
  | cons d s =>
    rw [isPlainName, Bool.and_eq_true, List.all_eq_true] at h
    intro c hc
    rcases List.mem_cons.1 hc with rfl | hc
    · exact isNamePart_of_isNameStart h.1
    · exact h.2 c hc

theorem ne_nil_of_isPlainName {s : List Char} (h : isPlainName s = true) : s ≠ [] := by
  rintro rfl
  cases h

/-- A plain column is a plain name, or two with a point between them. -/
theorem exists_of_isPlainColumn {s : List Char} (h : isPlainColumn s = true) :
    isPlainName s = true ∨ ∃ table name, s = table ++ '.' :: name ∧
      isPlainName table = true ∧ isPlainName name = true := by
  have hs := Text.intercalate_splitAt '.' s
  rw [isPlainColumn] at h
  split at h
  · next name hsplit =>
    rw [hsplit, List.intercalate_singleton] at hs
    exact .inl (hs ▸ h)
  · next table name hsplit =>
    rw [hsplit, List.intercalate_cons_cons, List.intercalate_singleton] at hs
    rw [Bool.and_eq_true] at h
    exact .inr ⟨table, name, by simpa using hs.symm, h.1, h.2⟩
  · cases h

/-- A plain column is not empty and consists of the characters of names and points. -/
theorem isColumnPart_of_isPlainColumn {s : List Char} (h : isPlainColumn s = true) :
    s ≠ [] ∧ ∀ c ∈ s, isColumnPart c = true := by
  rcases exists_of_isPlainColumn h with h | ⟨table, name, rfl, htable, hname⟩
  · exact ⟨ne_nil_of_isPlainName h,
      fun c hc ↦ isColumnPart_of_isNamePart (isNamePart_of_isPlainName h c hc)⟩
  · refine ⟨by simp, fun c hc ↦ ?_⟩
    rcases List.mem_append.1 hc with hc | hc
    · exact isColumnPart_of_isNamePart (isNamePart_of_isPlainName htable c hc)
    · rcases List.mem_cons.1 hc with rfl | hc
      · decide
      · exact isColumnPart_of_isNamePart (isNamePart_of_isPlainName hname c hc)

/-- An accepted column is a run of name characters, perhaps with a line feed behind it. -/
theorem exists_of_acceptsColumn {s : String} (h : acceptsColumn s = true) :
    ∃ name ending, s.toList = name ++ ending ∧ name ≠ [] ∧
      (∀ c ∈ name, isColumnPart c = true) ∧ (ending = [] ∨ ending = ['\n']) := by
  obtain ⟨hne, hname⟩ := isColumnPart_of_isPlainColumn h
  rcases exists_dropFinalNewline s.toList with hs | hs
  · exact ⟨_, [], by rw [List.append_nil]; exact hs, hne, hname, .inl rfl⟩
  · exact ⟨_, ['\n'], hs, hne, hname, .inr rfl⟩

/-! ### Texts of reference characters -/

/-- A text that is not empty and consists of reference characters. -/
def IsReference (s : String) : Prop :=
  s.toList ≠ [] ∧ ∀ c ∈ s.toList, isReferenceChar c = true

/-- Characters of names, with one line feed behind them at most, make a reference. -/
theorem isReference_of_parts {s : String} {name ending : List Char} (hs : s.toList = name ++ ending)
    (hne : name ≠ []) (hname : ∀ c ∈ name, isColumnPart c = true)
    (hending : ending = [] ∨ ending = ['\n']) : IsReference s := by
  rw [IsReference, hs]
  refine ⟨List.append_ne_nil_of_left_ne_nil hne _, fun c hc ↦ ?_⟩
  rcases List.mem_append.1 hc with hc | hc
  · exact isReferenceChar_of_isColumnPart (hname c hc)
  · rcases hending with rfl | rfl
    · simp at hc
    · rw [List.mem_singleton.1 hc]
      decide

theorem isReference_of_acceptsColumn {s : String} (h : acceptsColumn s = true) : IsReference s := by
  obtain ⟨name, ending, hs, hne, hname, hending⟩ := exists_of_acceptsColumn h
  exact isReference_of_parts hs hne hname hending

theorem isReference_of_acceptsTable {s : String} (h : acceptsTable s = true) : IsReference s := by
  have hname : ∀ c ∈ dropFinalNewline s.toList, isColumnPart c = true :=
    fun c hc ↦ isColumnPart_of_isNamePart (isNamePart_of_isPlainName h c hc)
  rcases exists_dropFinalNewline s.toList with hs | hs
  · have hs : s.toList = dropFinalNewline s.toList ++ [] := by rwa [List.append_nil]
    exact isReference_of_parts hs (ne_nil_of_isPlainName h) hname (.inl rfl)
  · exact isReference_of_parts hs (ne_nil_of_isPlainName h) hname (.inr rfl)

/-! ### Untagged texts that stand for columns -/

/-- The basic letters are few enough to look at. -/
theorem forall_isAlpha {P : Char → Prop}
    (h : ∀ n < 0x80, (Char.ofNat n).isAlpha = true → P (Char.ofNat n)) {c : Char}
    (hc : c.isAlpha = true) : P c := by
  have hbasic := (isColumnPart_bounds (isColumnPart_of_isAlpha hc)).2
  rw [← Char.ofNat_toNat c] at hc ⊢
  exact h c.toNat hbasic hc

/-- A basic letter in lower case is a letter again. -/
theorem isAlpha_toLower {c : Char} (h : c.isAlpha = true) : c.toLower.isAlpha = true :=
  forall_isAlpha (P := fun c ↦ c.toLower.isAlpha = true) (by decide +kernel) h

theorem isReferenceChar_of_mem_lowerNameChar {c d : Char} (h : isNameLetter c = true)
    (hd : d ∈ lowerNameChar c) : isReferenceChar d = true := by
  rw [lowerNameChar] at hd
  split at hd
  · simp only [List.mem_cons, List.not_mem_nil, or_false] at hd
    rcases hd with rfl | rfl <;> decide
  · next hdotted =>
    split at hd
    · rw [List.mem_singleton.1 hd]
      decide
    · next hkelvin =>
      rw [List.mem_singleton.1 hd]
      simp only [isNameLetter, Bool.or_eq_true, decide_eq_true_eq] at h
      rcases h with ((((h | rfl) | h) | rfl) | rfl) | h
      · exact isReferenceChar_of_isColumnPart (isColumnPart_of_isAlpha (isAlpha_toLower h))
      · decide
      · exact absurd h hdotted
      · decide
      · decide
      · exact absurd h hkelvin

/-- The form is that of two runs of letters with a point between them, perhaps with a line feed
behind. -/
theorem exists_of_isColumnText {s : List Char} (h : isColumnText s = true) :
    ∃ table name ending, s = table ++ '.' :: name ++ ending ∧
      (table ≠ [] ∧ ∀ c ∈ table, isNameLetter c = true) ∧
      (name ≠ [] ∧ ∀ c ∈ name, isNameLetter c = true) ∧ (ending = [] ∨ ending = ['\n']) := by
  rw [isColumnText] at h
  split at h
  · next table name hsplit =>
    have hparts := Text.intercalate_splitAt '.' (dropFinalNewline s)
    rw [hsplit, List.intercalate_cons_cons, List.intercalate_singleton, List.append_assoc,
      List.singleton_append] at hparts
    simp only [Bool.and_eq_true, Bool.not_eq_true', List.isEmpty_eq_false_iff,
      List.all_eq_true] at h
    obtain ⟨⟨⟨htable, htable'⟩, hname⟩, hname'⟩ := h
    rcases exists_dropFinalNewline s with hs | hs
    · exact ⟨table, name, [], by rw [List.append_nil, hparts, ← hs], ⟨htable, htable'⟩,
        ⟨hname, hname'⟩, .inl rfl⟩
    · exact ⟨table, name, ['\n'], by rw [hparts, ← hs], ⟨htable, htable'⟩, ⟨hname, hname'⟩,
        .inr rfl⟩
  · cases h

/-- What is taken for a column has a point in it, and nothing but letters of names, points and line
feeds. -/
theorem mem_of_isColumnText {s : List Char} (h : isColumnText s = true) :
    '.' ∈ s ∧ ∀ c ∈ s, isNameLetter c = true ∨ c = '.' ∨ c = '\n' := by
  obtain ⟨table, name, ending, rfl, ⟨-, htable⟩, ⟨-, hname⟩, hending⟩ := exists_of_isColumnText h
  refine ⟨by simp, fun c hc ↦ ?_⟩
  rcases List.mem_append.1 hc with hc | hc
  · rcases List.mem_append.1 hc with hc | hc
    · exact .inl (htable c hc)
    · rcases List.mem_cons.1 hc with rfl | hc
      · exact .inr (.inl rfl)
      · exact .inl (hname c hc)
  · rcases hending with rfl | rfl
    · simp at hc
    · exact .inr (.inr (List.mem_singleton.1 hc))

/-- An untagged text of the form of a column is a name when it is written in lower case. -/
theorem isReference_of_isColumnText {s : String} (h : isColumnText s.toList = true) :
    IsReference (String.ofList (s.toList.flatMap lowerNameChar)) := by
  obtain ⟨hpoint, hmem⟩ := mem_of_isColumnText h
  have hkept : '.' ∈ lowerNameChar '.' := by decide
  rw [IsReference, String.toList_ofList]
  refine ⟨List.ne_nil_of_mem (List.mem_flatMap.2 ⟨'.', hpoint, hkept⟩), fun d hd ↦ ?_⟩
  obtain ⟨c, hc, hd⟩ := List.mem_flatMap.1 hd
  rcases hmem c hc with hletter | rfl | rfl
  · exact isReferenceChar_of_mem_lowerNameChar hletter hd
  · rw [show lowerNameChar '.' = ['.'] by decide, List.mem_singleton] at hd
    rw [hd]
    decide
  · rw [show lowerNameChar '\n' = ['\n'] by decide, List.mem_singleton] at hd
    rw [hd]
    decide

/-! ### Aggregates -/

/-- All characters are blank. -/
def Blanks (s : List Char) : Prop :=
  ∀ c ∈ s, Text.isBlank c = true

/-- The text is the word and the column between parentheses, with blank characters around every
part. -/
structure AggregateForm (s word column : List Char) : Prop where
  parts : ∃ b₁ b₂ b₃ b₄ b₅, (Blanks b₁ ∧ Blanks b₂ ∧ Blanks b₃ ∧ Blanks b₄ ∧ Blanks b₅) ∧
    s = b₁ ++ word ++ b₂ ++ '(' :: (b₃ ++ column ++ b₄) ++ ')' :: b₅
  word_ne_nil : word ≠ []
  isAlpha_of_mem_word : ∀ c ∈ word, c.isAlpha = true
  isPlainColumn : isPlainColumn column = true

/-- The parts of an aggregate stand in its text with brackets around the column. -/
theorem aggregateForm_of_aggregateParts? {s word column : List Char}
    (h : aggregateParts? s = some (word, column)) : AggregateForm s word column := by
  rw [aggregateParts?] at h
  dsimp only at h
  split at h
  · next rest hopen =>
    split at h
    · next rest' hclose =>
      split at h
      · next hcond =>
        -- the blank characters that were skipped, from left to right
        obtain ⟨b₁, hb₁, hs⟩ := Text.exists_trimStart s
        obtain ⟨b₂, hb₂, hword⟩ :=
          Text.exists_trimStart ((Text.trimStart s).dropWhile Char.isAlpha)
        obtain ⟨b₃, hb₃, hrest⟩ := Text.exists_trimStart rest
        obtain ⟨b₄, hb₄, hcolumn⟩ :=
          Text.exists_trimStart ((Text.trimStart rest).dropWhile isColumnPart)
        rw [hopen] at hword
        rw [hclose] at hcolumn
        simp only [Bool.and_eq_true, Bool.not_eq_true', List.isEmpty_eq_false_iff,
          List.all_eq_true] at hcond
        obtain ⟨⟨hne, hplain⟩, hb₅⟩ := hcond
        cases h
        refine ⟨⟨b₁, b₂, b₃, b₄, rest', ⟨hb₁, hb₂, hb₃, hb₄, hb₅⟩, ?_⟩, hne,
          List.all_eq_true.1 List.all_takeWhile, hplain⟩
        calc s = b₁ ++ Text.trimStart s := hs
          _ = b₁ ++ ((Text.trimStart s).takeWhile Char.isAlpha ++ (b₂ ++ '(' :: rest)) := by
            rw [← hword, List.takeWhile_append_dropWhile]
          _ = b₁ ++ ((Text.trimStart s).takeWhile Char.isAlpha ++
                (b₂ ++ '(' :: (b₃ ++ ((Text.trimStart rest).takeWhile isColumnPart ++
                  (b₄ ++ ')' :: rest'))))) := by
            rw [← hcolumn, List.takeWhile_append_dropWhile, ← hrest]
          _ = _ := by simp only [List.append_assoc, List.cons_append]
      · cases h
    · cases h
  · cases h

end ReportQuery.Sql
