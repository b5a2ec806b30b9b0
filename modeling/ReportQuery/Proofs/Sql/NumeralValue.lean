import Mathlib.Data.List.TakeWhile
import ReportQuery.Proofs.Number.Shortest
import ReportQuery.Proofs.Sql.Numeral

/-!
# The numbers that numerals denote

A numeral denotes a decimal number: the digits around its point, read as one natural number, are
scaled by its exponent less the number of digits behind the point, and its sign is the sign of the
number, also of zero. `Denotes` says this along the form of a numeral (`denotes_iff_form`), again
with the class of digits as a parameter, and `Denotes.imp` leads from one class to another.

## The reader agrees

`Decimal.ofText?` reads texts of many kinds, and cuts them up without regard to the form. On
numerals it finds the number that they denote (`ofText?_of_denotes`), so that number is unique.
-/

namespace ReportQuery.Sql

/-! ### What is denoted -/

/-- A number with a sign in front of it. -/
def signedNumber (sign : List Char) (n : ℕ) : ℤ :=
  if sign = ['-'] then -n else n

section

variable (digit : Char → Bool)

/-- One or more digits, which denote a natural number. -/
structure DigitsDenote (s : List Char) (n : ℕ) : Prop where
  ne_nil : s ≠ []
  digits : ∀ c ∈ s, digit c = true
  value : Decimal.digitsValue? s = some n

/-- An ending denotes what it adds to the exponent: nothing, or the number behind its letter. -/
inductive EndingDenotes : List Char → ℤ → Prop
  | none : EndingDenotes [] 0
  | exponent {mark : Char} {sign digits : List Char} {n : ℕ} (hmark : mark = 'e' ∨ mark = 'E')
      (hsign : SignForm sign) (h : DigitsDenote digit digits n) :
      EndingDenotes (mark :: sign ++ digits) (signedNumber sign n)

/-- The digits of an unsigned numeral, whether there is a point among them or not, denote one
number; each digit behind the point lowers the exponent by one. -/
inductive UnsignedDenotes : List Char → Numeral → Prop
  | whole {digits ending : List Char} {n : ℕ} {e : ℤ} (h : DigitsDenote digit digits n)
      (hending : EndingDenotes digit ending e) : UnsignedDenotes (digits ++ ending) ⟨n, e⟩
  | point {whole fraction ending : List Char} {n : ℕ} {e : ℤ}
      (h : DigitsDenote digit (whole ++ fraction) n) (hending : EndingDenotes digit ending e) :
      UnsignedDenotes (whole ++ '.' :: fraction ++ ending) ⟨n, e - fraction.length⟩

/-- A numeral denotes the number of its unsigned part, with its sign. -/
def Denotes (s : List Char) (d : Decimal) : Prop :=
  ∃ sign body n, SignForm sign ∧ UnsignedDenotes digit body n ∧ s = sign ++ body ∧
    d = .finite (sign = ['-']) n.digits n.exponent

end

/-! ### Runs of digits -/

theorem foldl_digits {s : List Char} (h : ∀ c ∈ s, Text.isDecimalDigit c = true) (n : ℕ) :
    ∃ m, s.foldl (fun acc c ↦ acc.bind fun n ↦ (Text.decimalDigit? c).map (10 * n + ·)) (some n) =
      some m := by
  induction s generalizing n with
  | nil => exact ⟨n, rfl⟩
  | cons c s ih =>
    obtain ⟨hc, hs⟩ := List.forall_mem_cons.1 h
    have hsome : (Text.decimalDigit? c).isSome = true := by
      rw [Text.decimalDigit?, Option.isSome_map, List.find?_isSome]
      simpa [Text.isDecimalDigit] using hc
    obtain ⟨d, hd⟩ := Option.isSome_iff_exists.1 hsome
    rw [List.foldl_cons, Option.bind_some, hd, Option.map_some]
    exact ih hs _

/-- Digits of any script denote a number. -/
theorem exists_digitsDenote {s : List Char} (hne : s ≠ [])
    (h : ∀ c ∈ s, Text.isDecimalDigit c = true) : ∃ n, DigitsDenote Text.isDecimalDigit s n := by
  obtain ⟨n, hn⟩ := foldl_digits h 0
  exact ⟨n, hne, h, hn⟩

/-- A basic digit stands in the first run of the table. -/
theorem decimalDigit?_of_isDigit {c : Char} (h : c.isDigit = true) :
    Text.decimalDigit? c = some (c.toNat - '0'.toNat) := by
  have hbasic : 0x30 ≤ c.toNat ∧ c.toNat ≤ 0x39 := by
    simpa [Char.isDigit, UInt32.le_iff_toNat_le] using h
  have hfind : (decide (0x30 ≤ c.toNat) && decide (c.toNat < 0x30 + 10)) = true := by
    rw [Bool.and_eq_true, decide_eq_true_eq, decide_eq_true_eq]
    omega
  have hzeros : Text.decimalZeros = 0x30 :: Text.decimalZeros.tail := rfl
  rw [Text.decimalDigit?, hzeros, List.find?_cons]
  simp only [hfind]
  rfl

/-- The value of basic digits is the number that they write. -/
theorem digitsValue?_of_isDigit {s : List Char} (h : ∀ c ∈ s, c.isDigit = true) :
    Decimal.digitsValue? s = some (Nat.ofDigitChars 10 s 0) := by
  rw [Decimal.digitsValue?]
  generalize 0 = n
  induction s generalizing n with
  | nil => rfl
  | cons c s ih =>
    obtain ⟨hc, hs⟩ := List.forall_mem_cons.1 h
    rw [List.foldl_cons, Option.bind_some, decimalDigit?_of_isDigit hc, Option.map_some, ih hs,
      Nat.ofDigitChars_cons]

theorem digitsDenote_iff {s : List Char} {n : ℕ} : DigitsDenote Char.isDigit s n ↔
    s ≠ [] ∧ (∀ c ∈ s, c.isDigit = true) ∧ Nat.ofDigitChars 10 s 0 = n := by
  constructor
  · rintro ⟨hne, hs, hn⟩
    rw [digitsValue?_of_isDigit hs] at hn
    exact ⟨hne, hs, Option.some.inj hn⟩
  · rintro ⟨hne, hs, rfl⟩
    exact ⟨hne, hs, digitsValue?_of_isDigit hs⟩

theorem isDigit_of_mem_toString {n : Nat} {c : Char} (h : c ∈ (toString n).toList) :
    c.isDigit = true := by
  rw [Nat.toString_eq_ofList_toDigits, String.toList_ofList] at h
  exact Nat.isDigit_of_mem_toDigits (by decide) (by decide) h

theorem toString_nat_ne_nil (n : Nat) : (toString n).toList ≠ [] := by
  rw [Nat.toString_eq_ofList_toDigits, String.toList_ofList]
  exact Nat.toDigits_ne_nil

theorem isDigit_of_mem_zeros {n : Nat} {c : Char} (h : c ∈ List.replicate n '0') :
    c.isDigit = true := by
  rw [List.eq_of_mem_replicate h]
  decide

/-- The digits of a number denote it. -/
theorem digitsDenote_toString (n : ℕ) : DigitsDenote Char.isDigit (toString n).toList n := by
  refine digitsDenote_iff.2 ⟨toString_nat_ne_nil n, fun _ ↦ isDigit_of_mem_toString, ?_⟩
  rw [Nat.toString_eq_ofList_toDigits, String.toList_ofList]
  exact Nat.ofDigitChars_toDigits (by decide) (by decide)

/-- Zeros in front do not count. -/
theorem DigitsDenote.zeros_append {s : List Char} {n : ℕ} (h : DigitsDenote Char.isDigit s n)
    (k : ℕ) : DigitsDenote Char.isDigit (List.replicate k '0' ++ s) n := by
  obtain ⟨hne, hs, hn⟩ := digitsDenote_iff.1 h
  refine digitsDenote_iff.2 ⟨List.append_ne_nil_of_right_ne_nil _ hne, fun c hc ↦ ?_, ?_⟩
  · exact (List.mem_append.1 hc).elim isDigit_of_mem_zeros (hs c)
  · rw [Nat.ofDigitChars_append, Nat.ofDigitChars_replicate_zero, Nat.mul_zero, hn]

/-- Each zero behind multiplies by ten. -/
theorem DigitsDenote.append_zeros {s : List Char} {n : ℕ} (h : DigitsDenote Char.isDigit s n)
    (k : ℕ) : DigitsDenote Char.isDigit (s ++ List.replicate k '0') (10 ^ k * n) := by
  obtain ⟨hne, hs, hn⟩ := digitsDenote_iff.1 h
  refine digitsDenote_iff.2 ⟨List.append_ne_nil_of_left_ne_nil hne _, fun c hc ↦ ?_, ?_⟩
  · exact (List.mem_append.1 hc).elim (hs c) isDigit_of_mem_zeros
  · rw [Nat.ofDigitChars_append, hn, Nat.ofDigitChars_replicate_zero]

/-! ### Form and meaning -/

section

variable {p q : Char → Bool} {s : List Char}

theorem DigitsDenote.imp {n : ℕ} (hs : DigitsDenote p s n) (h : ∀ c ∈ s, p c = true → q c = true) :
    DigitsDenote q s n :=
  ⟨hs.ne_nil, fun c hc ↦ h c hc (hs.digits c hc), hs.value⟩

/-- What a text denotes does not depend on the class that its digits are taken from. -/
theorem EndingDenotes.imp {e : ℤ} (hs : EndingDenotes p s e)
    (h : ∀ c ∈ s, p c = true → q c = true) : EndingDenotes q s e := by
  cases hs with
  | none => exact .none
  | exponent hmark hsign hdigits =>
    exact .exponent hmark hsign (hdigits.imp fun c hc ↦ h c (List.mem_append_right _ hc))

theorem UnsignedDenotes.imp {n : Numeral} (hs : UnsignedDenotes p s n)
    (h : ∀ c ∈ s, p c = true → q c = true) : UnsignedDenotes q s n := by
  cases hs with
  | whole hdigits hending =>
    exact .whole (hdigits.imp fun c hc ↦ h c (List.mem_append_left _ hc))
      (hending.imp fun c hc ↦ h c (List.mem_append_right _ hc))
  | point hdigits hending =>
    refine .point (hdigits.imp fun c hc ↦ h c ?_)
      (hending.imp fun c hc ↦ h c (List.mem_append_right _ hc))
    rcases List.mem_append.1 hc with hc | hc <;> simp [hc]

/-- A numeral denotes the same when more characters count as digits. -/
theorem Denotes.imp {d : Decimal} (hs : Denotes p s d) (h : ∀ c ∈ s, p c = true → q c = true) :
    Denotes q s d := by
  obtain ⟨sign, body, n, hsign, hbody, rfl, rfl⟩ := hs
  exact ⟨sign, body, n, hsign, hbody.imp fun c hc ↦ h c (List.mem_append_right _ hc), rfl, rfl⟩

theorem EndingDenotes.form {e : ℤ} (h : EndingDenotes p s e) : EndingForm p s := by
  cases h with
  | none => exact .none
  | exponent hmark hsign hdigits => exact .exponent hmark hsign hdigits.ne_nil hdigits.digits

theorem UnsignedDenotes.form {n : Numeral} (h : UnsignedDenotes p s n) : UnsignedForm p s := by
  cases h with
  | whole hdigits hending => exact .whole hdigits.ne_nil hdigits.digits hending.form
  | point hdigits hending =>
    refine .point ?_ (fun c hc ↦ hdigits.digits c (List.mem_append_left _ hc))
      (fun c hc ↦ hdigits.digits c (List.mem_append_right _ hc)) hending.form
    simpa [Classical.or_iff_not_imp_left] using hdigits.ne_nil

/-- What denotes a number has the form of a numeral. -/
theorem Denotes.form {d : Decimal} (h : Denotes p s d) : NumeralForm p s := by
  obtain ⟨sign, body, n, hsign, hbody, rfl, rfl⟩ := h
  exact ⟨sign, body, hsign, hbody.form, rfl⟩

theorem EndingForm.exists_denotes (h : EndingForm Text.isDecimalDigit s) :
    ∃ e, EndingDenotes Text.isDecimalDigit s e := by
  cases h with
  | none => exact ⟨0, .none⟩
  | exponent hmark hsign hne hdigits =>
    obtain ⟨n, hn⟩ := exists_digitsDenote hne hdigits
    exact ⟨_, .exponent hmark hsign hn⟩

/-- Every numeral without a sign denotes a number. -/
theorem UnsignedForm.exists_denotes (h : UnsignedForm Text.isDecimalDigit s) :
    ∃ n, UnsignedDenotes Text.isDecimalDigit s n := by
  cases h with
  | whole hne hdigits hending =>
    obtain ⟨n, hn⟩ := exists_digitsDenote hne hdigits
    obtain ⟨e, he⟩ := hending.exists_denotes
    exact ⟨_, .whole hn he⟩
  | @point whole fraction ending hne hwhole hfraction hending =>
    have hne' : whole ++ fraction ≠ [] := by
      simpa [Classical.or_iff_not_imp_left] using hne
    obtain ⟨n, hn⟩ := exists_digitsDenote hne' fun c hc ↦
      (List.mem_append.1 hc).elim (hwhole c) (hfraction c)
    obtain ⟨e, he⟩ := hending.exists_denotes
    exact ⟨_, .point hn he⟩

/-- **Numerals are the texts that denote a number.** -/
theorem denotes_iff_form : (∃ d, Denotes Text.isDecimalDigit s d) ↔
    NumeralForm Text.isDecimalDigit s := by
  constructor
  · rintro ⟨d, hd⟩
    exact hd.form
  · rintro ⟨sign, body, hsign, hbody, rfl⟩
    obtain ⟨n, hn⟩ := hbody.exists_denotes
    exact ⟨_, sign, body, n, hsign, hn, rfl, rfl⟩

end

/-! ### The reader of decimal numbers -/

theorem signedDigits?_append {sign digits : List Char} {n : ℕ} (hsign : SignForm sign)
    (h : DigitsDenote Text.isDecimalDigit digits n) :
    Decimal.signedDigits? (sign ++ digits) = some (signedNumber sign n) := by
  have hempty : digits.isEmpty = false := by simpa using h.ne_nil
  have hplain : ∀ d, Text.isDecimalDigit d = false → ∀ t, digits ≠ d :: t := by
    rintro d hd t rfl
    simp [h.digits d (by simp)] at hd
  cases hsign with
  | none =>
    rw [List.nil_append, Decimal.signedDigits?.eq_def]
    split
    · next t => exact absurd rfl (hplain '-' (by decide) t)
    · next t => exact absurd rfl (hplain '+' (by decide) t)
    · simp [hempty, h.value, signedNumber]
  | plus => simp [Decimal.signedDigits?, hempty, h.value, signedNumber]
  | minus => simp [Decimal.signedDigits?, hempty, h.value, signedNumber]

/-- The reader cuts the ending off at its letter, and the rest at the point. -/
theorem unsigned?_append {mantissa ending : List Char} {e : ℤ}
    (hmantissa : ∀ c ∈ mantissa, c ≠ 'e' ∧ c ≠ 'E')
    (hending : EndingDenotes Text.isDecimalDigit ending e) :
    Decimal.unsigned? (mantissa ++ ending) =
      let whole := mantissa.takeWhile (· != '.')
      let fraction := (mantissa.dropWhile (· != '.')).drop 1
      if whole.isEmpty && fraction.isEmpty then none
      else (Decimal.digitsValue? (whole ++ fraction)).map fun n ↦ (n, e - fraction.length) := by
  have hpos : ∀ c ∈ mantissa, (!(c == 'e' || c == 'E')) = true := by
    simpa [not_or] using hmantissa
  rw [Decimal.unsigned?]
  dsimp only
  rw [List.takeWhile_append_of_pos hpos, List.dropWhile_append_of_pos hpos]
  cases hending with
  | none => simp [Option.bind_eq_bind, Option.map_eq_bind]
  | @exponent mark sign digits n hmark hsign h =>
    have hmark : (!(mark == 'e' || mark == 'E')) = false := by
      rcases hmark with rfl | rfl <;> rfl
    rw [List.cons_append, List.takeWhile_cons_of_neg (by simp [hmark]),
      List.dropWhile_cons_of_neg (by simp [hmark])]
    simp [signedDigits?_append hsign h, Option.bind_eq_bind, Option.map_eq_bind]

/-- The parts of a numeral are read as the number that it denotes. -/
theorem unsigned?_of_denotes {s : List Char} {n : Numeral}
    (h : UnsignedDenotes Text.isDecimalDigit s n) :
    Decimal.unsigned? s = some (n.digits, n.exponent) := by
  have hmarks : ∀ {c}, Text.isDecimalDigit c = true → c ≠ 'e' ∧ c ≠ 'E' :=
    fun hc ↦ ⟨Text.ne_of_class hc (by decide), Text.ne_of_class hc (by decide)⟩
  have hpoint : ∀ {c}, Text.isDecimalDigit c = true → (c != '.') = true :=
    fun hc ↦ by simpa using Text.ne_of_class hc (by decide)
  cases h with
  | @whole digits ending n e hdigits hending =>
    rw [unsigned?_append (fun c hc ↦ hmarks (hdigits.digits c hc)) hending]
    have hall : ∀ c ∈ digits, (c != '.') = true := fun c hc ↦ hpoint (hdigits.digits c hc)
    have htake : digits.takeWhile (· != '.') = digits := List.takeWhile_eq_self_iff.2 hall
    have hdrop : digits.dropWhile (· != '.') = [] := List.dropWhile_eq_nil_iff.2 hall
    simp [htake, hdrop, hdigits.value, hdigits.ne_nil]
  | @point whole fraction ending n e hdigits hending =>
    have hall : ∀ c ∈ whole, (c != '.') = true :=
      fun c hc ↦ hpoint (hdigits.digits c (List.mem_append_left _ hc))
    have hmantissa : ∀ c ∈ whole ++ '.' :: fraction, c ≠ 'e' ∧ c ≠ 'E' := by
      intro c hc
      rcases List.mem_append.1 hc with hc | hc
      · exact hmarks (hdigits.digits c (List.mem_append_left _ hc))
      · rcases List.mem_cons.1 hc with rfl | hc
        · decide
        · exact hmarks (hdigits.digits c (List.mem_append_right _ hc))
    have hne : ¬ (whole = [] ∧ fraction = []) := by simpa using hdigits.ne_nil
    rw [unsigned?_append hmantissa hending, List.takeWhile_append_of_pos hall,
      List.dropWhile_append_of_pos hall]
    simp [hdigits.value, hne]

/-- What opens an unsigned numeral has no other case. -/
theorem toLower_of_opensUnsigned {c : Char} (h : Text.isDecimalDigit c = true ∨ c = '.') :
    c.toLower = c := by
  refine Text.toLower_eq_self ?_
  rcases h with h | rfl
  · rw [Text.isDecimalDigit, List.any_eq_true] at h
    obtain ⟨start, hstart, hdigit⟩ := h
    rw [Bool.and_eq_true, decide_eq_true_eq, decide_eq_true_eq] at hdigit
    have hapart : ∀ start ∈ Text.decimalZeros, start + 10 ≤ 65 ∨ 90 < start := by decide
    have hzero := hapart start hstart
    refine decide_eq_false fun hrange ↦ ?_
    have hbounds : 65 ≤ c.toNat ∧ c.toNat ≤ 90 :=
      ⟨UInt32.le_iff_toNat_le.1 hrange.1, UInt32.le_iff_toNat_le.1 hrange.2⟩
    omega
  · decide

/-- **The reader finds the number that a numeral denotes**, whatever blank characters stand around
it. -/
theorem ofText?_of_denotes {s : String} {d : Decimal}
    (h : Denotes Text.isDecimalDigit (Text.trim s.toList) d) : Decimal.ofText? s = some d := by
  have hfilter : (Text.trim s.toList).filter (· != '_') = Text.trim s.toList := by
    refine List.filter_eq_self.2 fun c hc ↦ ?_
    rcases h.form.digit_or_mark hc with hdigit | hmark
    · simpa using Text.ne_of_class hdigit (by decide)
    · have hmarks : ∀ c ∈ numeralMarks, (c != '_') = true := Text.forall_mem_of_all (by decide)
      exact hmarks c hmark
  obtain ⟨sign, body, n, hsign, hbody, hs, rfl⟩ := h
  have hread := unsigned?_of_denotes hbody
  obtain ⟨c, t, rfl, hc⟩ := hbody.form.head
  have hopens : ∀ d, Text.isDecimalDigit d = false → d ≠ '.' → c ≠ d :=
    fun d hdigit hpoint ↦ ne_of_opensUnsigned hc hdigit hpoint
  -- the words for infinity and for no number start with letters
  have hi := hopens 'i' (by decide) (by decide)
  have hn := (hopens 'n' (by decide) (by decide)).symm
  have hs' := (hopens 's' (by decide) (by decide)).symm
  have hplus := hopens '+' (by decide) (by decide)
  have hminus := hopens '-' (by decide) (by decide)
  rw [Decimal.ofText?]
  dsimp only
  rw [hfilter, hs]
  cases hsign with
  | none => simp [toLower_of_opensUnsigned hc, hread, hi, hn, hs', hplus, hminus]
  | plus => simp [toLower_of_opensUnsigned hc, hread, hi, hn, hs']
  | minus => simp [toLower_of_opensUnsigned hc, hread, hi, hn, hs']

end ReportQuery.Sql
