import ReportQuery.Proofs.Text.Blank
import ReportQuery.Sql.Literal

/-!
# The form of numerals

A numeral is an optional sign, digits with at most one point among or beside them, and an optional
exponent. `isNumeral` decides this form by cutting a text up; here the form is stated by its parts,
`NumeralForm`, and the two are proved to agree (`isNumeral_iff`).

## Which digits count is a parameter

A text that is compared with a column is a numeral when its digits are digits of any script, and
the numbers of a request are written with the ten basic ones. `NumeralForm` takes the class of its
digits, so that both are the same form.
-/

namespace ReportQuery.Sql

/-! ### The form -/

/-- A sign, or nothing. -/
inductive SignForm : List Char → Prop
  | none : SignForm []
  | plus : SignForm ['+']
  | minus : SignForm ['-']

section

variable (digit : Char → Bool)

/-- Nothing, or an exponent: its letter, an optional sign and digits. -/
inductive EndingForm : List Char → Prop
  | none : EndingForm []
  | exponent {mark : Char} {sign digits : List Char} (hmark : mark = 'e' ∨ mark = 'E')
      (hsign : SignForm sign) (hne : digits ≠ []) (hdigits : ∀ c ∈ digits, digit c = true) :
      EndingForm (mark :: sign ++ digits)

/-- Digits, with a point among or beside them or without one, and an ending. -/
inductive UnsignedForm : List Char → Prop
  | whole {digits ending : List Char} (hne : digits ≠ [])
      (hdigits : ∀ c ∈ digits, digit c = true) (hending : EndingForm digit ending) :
      UnsignedForm (digits ++ ending)
  | point {whole fraction ending : List Char} (hne : whole ≠ [] ∨ fraction ≠ [])
      (hwhole : ∀ c ∈ whole, digit c = true) (hfraction : ∀ c ∈ fraction, digit c = true)
      (hending : EndingForm digit ending) :
      UnsignedForm (whole ++ '.' :: fraction ++ ending)

/-- A numeral: an optional sign in front of an unsigned numeral. -/
def NumeralForm (s : List Char) : Prop :=
  ∃ sign body, SignForm sign ∧ UnsignedForm digit body ∧ s = sign ++ body

end

/-! ### The characters of a numeral -/

section

variable {p : Char → Bool}

/-- The characters of a numeral that are not digits. -/
def numeralMarks : List Char := ['+', '-', '.', 'e', 'E']

theorem SignForm.mem_numeralMarks {s : List Char} (h : SignForm s) {c : Char} (hc : c ∈ s) :
    c ∈ numeralMarks := by
  cases h <;> simp_all [numeralMarks]

theorem EndingForm.digit_or_mark {s : List Char} (h : EndingForm p s) {c : Char} (hc : c ∈ s) :
    p c = true ∨ c ∈ numeralMarks := by
  cases h with
  | none => simp at hc
  | exponent hmark hsign _ hdigits =>
    rcases List.mem_append.1 hc with h | h
    · rcases List.mem_cons.1 h with rfl | h
      · exact .inr (by rcases hmark with rfl | rfl <;> decide)
      · exact .inr (hsign.mem_numeralMarks h)
    · exact .inl (hdigits c h)

theorem UnsignedForm.digit_or_mark {s : List Char} (h : UnsignedForm p s) {c : Char}
    (hc : c ∈ s) : p c = true ∨ c ∈ numeralMarks := by
  cases h with
  | whole _ hdigits hending =>
    rcases List.mem_append.1 hc with h | h
    · exact .inl (hdigits c h)
    · exact hending.digit_or_mark h
  | point _ hwhole hfraction hending =>
    rcases List.mem_append.1 hc with h | h
    · rcases List.mem_append.1 h with h | h
      · exact .inl (hwhole c h)
      · rcases List.mem_cons.1 h with rfl | h
        · exact .inr (by decide)
        · exact .inl (hfraction c h)
    · exact hending.digit_or_mark h

/-- A numeral consists of digits, signs, points and the letter of exponents. -/
theorem NumeralForm.digit_or_mark {s : List Char} (h : NumeralForm p s) {c : Char} (hc : c ∈ s) :
    p c = true ∨ c ∈ numeralMarks := by
  obtain ⟨sign, body, hsign, hbody, rfl⟩ := h
  rcases List.mem_append.1 hc with h | h
  · exact .inr (hsign.mem_numeralMarks h)
  · exact hbody.digit_or_mark h

theorem isBlank_of_mem_numeralMarks : ∀ c ∈ numeralMarks, Text.isBlank c = false :=
  Text.forall_mem_of_all (by decide)

/-- A numeral has no blank characters around it. -/
theorem NumeralForm.trim_eq_self {s : List Char} (h : NumeralForm Text.isDecimalDigit s) :
    Text.trim s = s := by
  refine Text.trim_eq_self fun c hc ↦ ?_
  rcases h.digit_or_mark hc with hdigit | hmark
  · exact Text.isBlank_of_isDecimalDigit hdigit
  · exact isBlank_of_mem_numeralMarks c hmark

/-- An unsigned numeral starts with a digit or with the point. -/
theorem UnsignedForm.head {s : List Char} (h : UnsignedForm p s) :
    ∃ c t, s = c :: t ∧ (p c = true ∨ c = '.') := by
  cases h with
  | @whole digits ending hne hdigits _ =>
    obtain ⟨c, t, rfl⟩ := List.exists_cons_of_ne_nil hne
    exact ⟨c, t ++ ending, rfl, .inl (hdigits c (by simp))⟩
  | @point whole fraction ending _ hwhole _ _ =>
    cases whole with
    | nil => exact ⟨'.', fraction ++ ending, rfl, .inr rfl⟩
    | cons c t => exact ⟨c, t ++ '.' :: fraction ++ ending, rfl, .inl (hwhole c (by simp))⟩

theorem NumeralForm.ne_nil {s : List Char} (h : NumeralForm p s) : s ≠ [] := by
  obtain ⟨sign, body, -, hbody, rfl⟩ := h
  obtain ⟨c, t, rfl, -⟩ := hbody.head
  simp

end

/-! ### Deciding the form -/

theorem dropSign_append {sign : List Char} (h : SignForm sign) {c : Char} (hplus : c ≠ '+')
    (hminus : c ≠ '-') (t : List Char) : dropSign (sign ++ c :: t) = c :: t := by
  cases h with
  | none => simp [dropSign, hplus, hminus]
  | plus => rfl
  | minus => rfl

/-- Every text is a sign, perhaps an empty one, and what is left without it. -/
theorem exists_sign (s : List Char) : ∃ sign, SignForm sign ∧ s = sign ++ dropSign s := by
  rw [dropSign.eq_def]
  split
  · exact ⟨['+'], .plus, rfl⟩
  · exact ⟨['-'], .minus, rfl⟩
  · exact ⟨[], .none, rfl⟩

/-- What starts an unsigned numeral is neither a sign nor any other character. -/
theorem ne_of_opensUnsigned {c d : Char} (hc : Text.isDecimalDigit c = true ∨ c = '.')
    (hdigit : Text.isDecimalDigit d = false) (hpoint : d ≠ '.') : c ≠ d := by
  rcases hc with hc | rfl
  · exact Text.ne_of_class hc hdigit
  · exact hpoint.symm

/-- An exponent is recognized exactly when the text has the form of one, or is empty. -/
theorem isNumeralEnding_iff (s : List Char) :
    isNumeralEnding s = true ↔ EndingForm Text.isDecimalDigit s := by
  constructor
  · intro h
    cases s with
    | nil => exact .none
    | cons mark t =>
      simp only [isNumeralEnding, isExponent, List.isEmpty_cons, Bool.false_or, Bool.and_eq_true,
        Bool.or_eq_true, beq_iff_eq, Bool.not_eq_true', List.isEmpty_eq_false_iff,
        List.all_eq_true] at h
      obtain ⟨⟨hmark, hne⟩, hdigits⟩ := h
      -- the reader drops a sign without keeping it, so it is found again here
      obtain ⟨sign, hsign, ht⟩ := exists_sign t
      rw [ht]
      exact .exponent hmark hsign hne hdigits
  · intro h
    cases h with
    | none => rfl
    | @exponent mark sign digits hmark hsign hne hdigits =>
      obtain ⟨c, t, rfl⟩ := List.exists_cons_of_ne_nil hne
      have hc : Text.isDecimalDigit c = true := hdigits c (by simp)
      have hdrop : dropSign (sign ++ c :: t) = c :: t :=
        dropSign_append hsign (Text.ne_of_class hc (by decide))
          (Text.ne_of_class hc (by decide)) t
      rw [List.cons_append]
      simp only [isNumeralEnding, isExponent, List.isEmpty_cons, Bool.false_or, hdrop,
        Bool.and_eq_true, Bool.or_eq_true, beq_iff_eq, Bool.not_false, List.all_eq_true]
      exact ⟨⟨hmark, trivial⟩, hdigits⟩

/-- What may follow the digits of a numeral is no digit. -/
theorem EndingForm.takeWhile_append {digits ending : List Char}
    (hdigits : ∀ c ∈ digits, Text.isDecimalDigit c = true)
    (hending : EndingForm Text.isDecimalDigit ending) :
    (digits ++ ending).takeWhile Text.isDecimalDigit = digits ∧
      (digits ++ ending).dropWhile Text.isDecimalDigit = ending := by
  rw [List.takeWhile_append_of_pos hdigits, List.dropWhile_append_of_pos hdigits]
  cases hending with
  | none => simp
  | exponent hmark _ _ _ =>
    rcases hmark with rfl | rfl
    · simp [show Text.isDecimalDigit 'e' = false by decide]
    · simp [show Text.isDecimalDigit 'E' = false by decide]

theorem EndingForm.ne_point {ending rest : List Char} (h : EndingForm Text.isDecimalDigit ending) :
    ending ≠ '.' :: rest := by
  rintro rfl
  cases h with
  | exponent hmark _ _ _ => rcases hmark with h | h <;> cases h

/-- A numeral without a sign is recognized exactly when it has the form of one. -/
theorem isUnsignedNumeral_iff (s : List Char) :
    isUnsignedNumeral s = true ↔ UnsignedForm Text.isDecimalDigit s := by
  constructor
  · intro h
    have hs : s = s.takeWhile Text.isDecimalDigit ++ s.dropWhile Text.isDecimalDigit :=
      List.takeWhile_append_dropWhile.symm
    have hwhole : ∀ c ∈ s.takeWhile Text.isDecimalDigit, Text.isDecimalDigit c = true :=
      List.all_eq_true.1 List.all_takeWhile
    rw [isUnsignedNumeral] at h
    -- behind the leading digits stands the point, or the ending at once
    split at h
    · next rest hrest =>
      have hfraction : ∀ c ∈ rest.takeWhile Text.isDecimalDigit, Text.isDecimalDigit c = true :=
        List.all_eq_true.1 List.all_takeWhile
      rw [Bool.and_eq_true, isNumeralEnding_iff] at h
      obtain ⟨hne, hending⟩ := h
      rw [hs, hrest, ← List.takeWhile_append_dropWhile (p := Text.isDecimalDigit) (l := rest),
        ← List.cons_append, ← List.append_assoc]
      refine .point ?_ hwhole hfraction hending
      simpa [← List.isEmpty_iff, -List.isEmpty_iff, Classical.or_iff_not_imp_left] using hne
    · rw [Bool.and_eq_true, isNumeralEnding_iff] at h
      obtain ⟨hne, hending⟩ := h
      rw [hs]
      exact .whole (by simpa using hne) hwhole hending
  · intro h
    cases h with
    | @whole digits ending hne hdigits hending =>
      obtain ⟨htake, hdrop⟩ := hending.takeWhile_append hdigits
      rw [isUnsignedNumeral]
      simp only [htake, hdrop]
      split
      · next rest => exact (hending.ne_point rfl).elim
      · simpa [(isNumeralEnding_iff ending).2 hending] using hne
    | @point whole fraction ending hne hwhole hfraction hending =>
      obtain ⟨htake, hdrop⟩ := hending.takeWhile_append hfraction
      have hpoint : Text.isDecimalDigit '.' = false := by decide
      rw [isUnsignedNumeral, List.append_assoc, List.cons_append,
        List.takeWhile_append_of_pos hwhole, List.dropWhile_append_of_pos hwhole,
        List.takeWhile_cons_of_neg (by simp [hpoint]),
        List.dropWhile_cons_of_neg (by simp [hpoint])]
      simp only [htake, hdrop, (isNumeralEnding_iff ending).2 hending]
      rcases hne with h | h <;> simp [h]

/-- **A text is a numeral exactly when it has the form of one**, with digits of any script. -/
theorem isNumeral_iff (s : List Char) : isNumeral s = true ↔ NumeralForm Text.isDecimalDigit s := by
  rw [isNumeral, isUnsignedNumeral_iff]
  constructor
  · intro h
    obtain ⟨sign, hsign, hs⟩ := exists_sign s
    exact ⟨sign, dropSign s, hsign, h, hs⟩
  · rintro ⟨sign, body, hsign, hbody, rfl⟩
    obtain ⟨c, t, rfl, hc⟩ := hbody.head
    have hdrop : dropSign (sign ++ c :: t) = c :: t :=
      dropSign_append hsign (ne_of_opensUnsigned hc (by decide) (by decide))
        (ne_of_opensUnsigned hc (by decide) (by decide)) t
    rwa [hdrop]

end ReportQuery.Sql
