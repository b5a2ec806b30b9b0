import ReportQuery.Proofs.Sql.RightSide
import ReportQuery.Proofs.Sql.Scan

/-!
# Texts that are safe inside a statement

A text is **safe** when it closes its literals and its code can neither end the statement nor open
a comment: no semicolon, double quote, backslash, dollar sign or slash is code, and every dash of
its code has a character behind it that is no dash. The last part is what makes safe texts safe
side by side: two dashes could also meet across a seam.

Every piece of a statement is safe for one of three reasons: it is fixed, it consists of the
characters of names, or it is a literal. Numerals are the only pieces with dashes
(`NumeralForm.dashesFollowed`).
-/

namespace ReportQuery.Sql

/-! ### Safe code -/

/-- Characters that must not be code. A slash could open a comment. -/
def unsafeMarks : List Char := [';', '"', '\\', '$', '/']

/-- Every dash has a character behind it, which is no dash. -/
def DashesFollowed : List Char → Prop
  | [] => True
  | c :: t => (c = '-' → ∃ d u, t = d :: u ∧ d ≠ '-') ∧ DashesFollowed t

/-- Code that can neither end a statement nor open a comment, whatever stands beside it. -/
structure SafeCode (t : List Char) : Prop where
  marks : ∀ c ∈ t, c ∉ unsafeMarks
  dashes : DashesFollowed t

/-- Dashes stay followed when texts are put together. -/
theorem DashesFollowed.append {t u : List Char} (ht : DashesFollowed t) (hu : DashesFollowed u) :
    DashesFollowed (t ++ u) := by
  induction t with
  | nil => exact hu
  | cons c t ih =>
    refine ⟨fun hc ↦ ?_, ih ht.2⟩
    obtain ⟨d, v, rfl, hd⟩ := ht.1 hc
    exact ⟨d, v ++ u, rfl, hd⟩

theorem dashesFollowed_of_not_mem {t : List Char} (h : '-' ∉ t) : DashesFollowed t := by
  induction t with
  | nil => trivial
  | cons c t ih =>
    obtain ⟨hc, ht⟩ := List.ne_and_not_mem_of_not_mem_cons h
    exact ⟨fun h ↦ absurd h.symm hc, ih ht⟩

theorem joins_safeCode : Joins SafeCode := by
  intro a b ha hb
  exact ⟨joins_forall_mem _ ha.marks hb.marks, ha.dashes.append hb.dashes⟩

/-- Two dashes do not stand side by side. -/
theorem DashesFollowed.no_pair {t : List Char} (h : DashesFollowed t) : ¬ ['-', '-'] <:+: t := by
  induction t with
  | nil => simp
  | cons c t ih =>
    intro hpair
    -- the pair would start here or further on
    rcases List.infix_cons_iff.1 hpair with hprefix | hinfix
    · obtain ⟨u, hu⟩ := hprefix
      cases hu
      obtain ⟨d, v, hd, hne⟩ := h.1 rfl
      cases hd
      exact hne rfl
    · exact ih h.2 hinfix

/-! ### Safe texts -/

/-- Characters that are avoided by every piece of a statement that is no literal. -/
def avoidedMarks : List Char := '\'' :: '-' :: unsafeMarks

/-- No character of the text is avoided. -/
def IsPlain (s : String) : Prop :=
  ∀ c ∈ s.toList, c ∉ avoidedMarks

instance (s : String) : Decidable (IsPlain s) :=
  List.decidableBAll (· ∉ avoidedMarks) s.toList

/-- The text may stand in a statement. -/
def IsSafe (s : String) : Prop :=
  Sealed SafeCode s.toList

theorem IsPlain.no_quote {s : String} (h : IsPlain s) : '\'' ∉ s.toList :=
  fun hmem ↦ h _ hmem (by decide)

theorem IsPlain.safeCode {s : String} (h : IsPlain s) : SafeCode s.toList := by
  refine ⟨fun c hc hmark ↦ h c hc ?_, dashesFollowed_of_not_mem fun hmem ↦ h _ hmem (by decide)⟩
  simp [avoidedMarks, hmark]

theorem IsPlain.isSafe {s : String} (h : IsPlain s) : IsSafe s :=
  sealed_of_plain h.no_quote h.safeCode

theorem isSafe_quoteText (s : String) : IsSafe (quoteText s) :=
  sealed_quoteText ⟨Text.forall_mem_of_all (by decide), dashesFollowed_of_not_mem (by decide)⟩ s

/-! ### Putting safe texts together -/

/-- Safe texts with a fixed text between them. -/
theorem IsSafe.join {s t sep : String} (hs : IsSafe s) (ht : IsSafe t) (hsep : IsPlain sep)
    (hne : sep ≠ "") : IsSafe (s ++ sep ++ t) := by
  have hsep_ne : sep.toList ≠ [] := by simpa using hne
  rw [IsSafe, String.toList_append, String.toList_append]
  exact Sealed.join joins_safeCode hs hsep.no_quote hsep_ne hsep.safeCode ht

/-- A fixed text in front of a safe one. -/
theorem IsSafe.plain_append {s t : String} (hs : IsPlain s) (ht : IsSafe t) : IsSafe (s ++ t) := by
  rw [IsSafe, String.toList_append]
  exact Sealed.plain_append joins_safeCode hs.no_quote hs.safeCode ht

/-- A fixed text behind a safe one. -/
theorem IsSafe.append_plain {s t : String} (hs : IsSafe s) (ht : IsPlain t) : IsSafe (s ++ t) := by
  rw [IsSafe, String.toList_append]
  refine Sealed.append joins_safeCode hs ht.isSafe fun h ↦ ?_
  exact ht.no_quote (List.mem_of_head? h)

theorem isSafe_intercalate {sep : String} (hsep : IsPlain sep) (hne : sep ≠ "") {ts : List String}
    (h : ∀ t ∈ ts, IsSafe t) : IsSafe (sep.intercalate ts) := by
  have hsep_ne : sep.toList ≠ [] := by simpa using hne
  rw [IsSafe, String.toList_intercalate]
  refine sealed_intercalate joins_safeCode ⟨by simp, trivial⟩ hsep.no_quote hsep_ne hsep.safeCode ?_
  intro t ht
  obtain ⟨u, hu, rfl⟩ := List.mem_map.1 ht
  exact h u hu

/-! ### Names -/

/-- A class that holds no avoided character. -/
theorem not_mem_avoidedMarks {p : Char → Bool} (hp : avoidedMarks.all (!p ·) = true) {c : Char}
    (hc : p c = true) : c ∉ avoidedMarks := by
  intro h
  have := List.all_eq_true.1 hp c h
  simp [hc] at this

theorem isPlain_of_isReferenceChar {s : String} (h : ∀ c ∈ s.toList, isReferenceChar c = true) :
    IsPlain s :=
  fun c hc ↦ not_mem_avoidedMarks (by decide) (h c hc)

theorem isSafe_of_isReference {s : String} (h : IsReference s) : IsSafe s :=
  (isPlain_of_isReferenceChar h.2).isSafe

/-- A text that is read as an aggregate consists of letters, name characters, parentheses and
blank characters. -/
theorem AggregateForm.isPlain {s : String} {word column : List Char}
    (h : AggregateForm s.toList word column) : IsPlain s := by
  obtain ⟨b₁, b₂, b₃, b₄, b₅, ⟨hb₁, hb₂, hb₃, hb₄, hb₅⟩, hs⟩ := h.parts
  have hblank : ∀ {b : List Char}, Blanks b → ∀ c ∈ b, c ∉ avoidedMarks :=
    fun hb c hc ↦ not_mem_avoidedMarks (by decide) (hb c hc)
  have hword : ∀ c ∈ word, c ∉ avoidedMarks := fun c hc ↦
    not_mem_avoidedMarks (by decide) (h.isAlpha_of_mem_word c hc)
  have hcolumn : ∀ c ∈ column, c ∉ avoidedMarks := fun c hc ↦
    not_mem_avoidedMarks (by decide) ((isColumnPart_of_isPlainColumn h.isPlainColumn).2 c hc)
  have hopen : '(' ∉ avoidedMarks := by decide
  have hclose : ')' ∉ avoidedMarks := by decide
  intro c hc
  rw [hs] at hc
  simp only [List.mem_append, List.mem_cons] at hc
  rcases hc with ((((hc | hc) | hc) | rfl | ((hc | hc) | hc)) | rfl | hc)
  · exact hblank hb₁ c hc
  · exact hword c hc
  · exact hblank hb₂ c hc
  · exact hopen
  · exact hblank hb₃ c hc
  · exact hcolumn c hc
  · exact hblank hb₄ c hc
  · exact hclose
  · exact hblank hb₅ c hc

/-! ### Numerals and literals -/

theorem dashesFollowed_of_digits {s : List Char} (h : ∀ c ∈ s, Text.isDecimalDigit c = true) :
    DashesFollowed s :=
  dashesFollowed_of_not_mem fun hmem ↦ Text.ne_of_class (h _ hmem) (d := '-') (by decide) rfl

theorem DashesFollowed.cons {c : Char} (hc : c ≠ '-') {t : List Char} (ht : DashesFollowed t) :
    DashesFollowed (c :: t) :=
  ⟨fun h ↦ absurd h hc, ht⟩

/-- A sign may stand in front of what does not start with a dash. -/
theorem SignForm.dashesFollowed {sign : List Char} (h : SignForm sign) {c : Char} (hc : c ≠ '-')
    {t : List Char} (ht : DashesFollowed (c :: t)) : DashesFollowed (sign ++ c :: t) := by
  cases h with
  | none => exact ht
  | plus => exact ht.cons (by decide)
  | minus => exact ⟨fun _ ↦ ⟨c, t, rfl, hc⟩, ht⟩

theorem EndingForm.dashesFollowed {s : List Char} (h : EndingForm Text.isDecimalDigit s) :
    DashesFollowed s := by
  cases h with
  | none => trivial
  | @exponent mark sign digits hmark hsign hne hdigits =>
    obtain ⟨c, t, rfl⟩ := List.exists_cons_of_ne_nil hne
    have hc : c ≠ '-' := Text.ne_of_class (hdigits c (by simp)) (by decide)
    have hrest := hsign.dashesFollowed hc (dashesFollowed_of_digits hdigits)
    rcases hmark with rfl | rfl
    · exact hrest.cons (by decide)
    · exact hrest.cons (by decide)

theorem UnsignedForm.dashesFollowed {s : List Char} (h : UnsignedForm Text.isDecimalDigit s) :
    DashesFollowed s := by
  cases h with
  | whole _ hdigits hending =>
    exact (dashesFollowed_of_digits hdigits).append hending.dashesFollowed
  | point _ hwhole hfraction hending =>
    have hpoint := (dashesFollowed_of_digits hfraction).cons (c := '.') (by decide)
    exact ((dashesFollowed_of_digits hwhole).append hpoint).append hending.dashesFollowed

/-- The dashes of a numeral are signs, and a digit or the point follows them. -/
theorem NumeralForm.dashesFollowed {s : List Char} (h : NumeralForm Text.isDecimalDigit s) :
    DashesFollowed s := by
  obtain ⟨sign, body, hsign, hbody, rfl⟩ := h
  have hdashes := hbody.dashesFollowed
  obtain ⟨c, t, rfl, hc⟩ := hbody.head
  refine hsign.dashesFollowed ?_ hdashes
  exact ne_of_opensUnsigned hc (by decide) (by decide)

theorem isSafe_of_isBareLiteral {s : String} (h : IsBareLiteral s) : IsSafe s := by
  have hwords : ∀ s ∈ literalWords, IsPlain s := by decide
  have hmarks : ∀ c ∈ numeralMarks, c ∉ '\'' :: unsafeMarks :=
    Text.forall_mem_of_all (by decide)
  rcases h with hword | hnumeral
  · exact (hwords s hword).isSafe
  · -- a numeral may have dashes, so it is not plain: of the avoided characters it has no other
    have hchars : ∀ c ∈ s.toList, c ∉ '\'' :: unsafeMarks := by
      intro c hc
      rcases hnumeral.digit_or_mark hc with hdigit | hmark
      · have havoided : c ∉ avoidedMarks := not_mem_avoidedMarks (by decide) hdigit
        simp_all [avoidedMarks]
      · exact hmarks c hmark
    refine sealed_of_plain (fun hquote ↦ hchars _ hquote (by decide)) ⟨?_, hnumeral.dashesFollowed⟩
    intro c hc hmark
    exact hchars c hc (List.mem_cons_of_mem _ hmark)

theorem Atom.WellFormed.isSafe {a : Atom} (h : a.WellFormed) : IsSafe a.sql := by
  cases a with
  | bare s =>
    rcases h with hliteral | hreference
    · exact isSafe_of_isBareLiteral hliteral
    · exact isSafe_of_isReference hreference
  | quoted s => exact isSafe_quoteText s

theorem Operand.WellFormed.isSafe {o : Operand} (h : o.WellFormed) : IsSafe o.sql := by
  cases o with
  | atom a => exact Atom.WellFormed.isSafe h
  | list items =>
    have hitems : IsSafe (", ".intercalate (items.map Atom.sql)) := by
      refine isSafe_intercalate (by decide) (by decide) fun t ht ↦ ?_
      obtain ⟨a, ha, rfl⟩ := List.mem_map.1 ht
      exact (h a ha).wellFormed.isSafe
    exact (hitems.plain_append (by decide)).append_plain (by decide)

/-! ### Safe statements -/

/-- A statement that ends where its text ends: literals are closed, the only semicolon that is
code is the last character, and nothing that is code opens a comment, a quoted name, an escape or
a dollar-quoted text. -/
structure IsSafeStatement (s : String) : Prop where
  /-- The scan ends outside a literal. -/
  closed : scan .outside s.toList = .outside
  /-- The last character is a semicolon, and it is the only one that is code. -/
  semicolon : ∃ body, s.toList = body ++ [';'] ∧
    code .outside s.toList = code .outside body ++ [';'] ∧ ';' ∉ code .outside body
  no_dashes : ¬ ['-', '-'] <:+: code .outside s.toList
  no_comment : ¬ ['/', '*'] <:+: code .outside s.toList
  no_marks : ∀ c ∈ ['"', '\\', '$'], c ∉ code .outside s.toList

/-- A safe text with a semicolon behind it is a safe statement. -/
theorem IsSafe.isSafeStatement {s : String} (h : IsSafe s) : IsSafeStatement (s ++ ";") := by
  have hsemicolon : (";" : String).toList = [';'] := rfl
  -- the literals of `s` are closed, so the semicolon behind it is code
  have hscan : scan .outside (s.toList ++ [';']) = .outside := by
    rw [scan_append, scan_cons_of_closed h.closed (by decide)]
    rfl
  have hcode : code .outside (s.toList ++ [';']) = code .outside s.toList ++ [';'] := by
    rw [code_append, code_cons_of_closed h.closed (by decide)]
    rfl
  have hmarks : ∀ c ∈ unsafeMarks, c ∉ code .outside s.toList :=
    fun c hc hmem ↦ h.code.marks c hmem hc
  have hdashes : DashesFollowed (code .outside s.toList ++ [';']) :=
    h.code.dashes.append (dashesFollowed_of_not_mem (by decide))
  constructor
  case closed => rwa [String.toList_append, hsemicolon]
  case semicolon =>
    rw [String.toList_append, hsemicolon]
    exact ⟨s.toList, rfl, hcode, hmarks ';' (by decide)⟩
  case no_dashes =>
    rw [String.toList_append, hsemicolon, hcode]
    exact hdashes.no_pair
  case no_comment =>
    rw [String.toList_append, hsemicolon, hcode]
    intro hcomment
    have hslash : '/' ∈ code .outside s.toList ++ [';'] := hcomment.subset (by simp)
    rcases List.mem_append.1 hslash with hslash | hslash
    · exact hmarks '/' (by decide) hslash
    · simp at hslash
  case no_marks =>
    rw [String.toList_append, hsemicolon, hcode]
    have hforbidden : ∀ c ∈ ['"', '\\', '$'], c ∈ unsafeMarks ∧ c ≠ ';' :=
      Text.forall_mem_of_all (by decide)
    intro c hc hmem
    rcases List.mem_append.1 hmem with hmem | hmem
    · exact hmarks c (hforbidden c hc).1 hmem
    · exact (hforbidden c hc).2 (List.mem_singleton.1 hmem)

end ReportQuery.Sql
