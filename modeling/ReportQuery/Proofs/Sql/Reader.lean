import ReportQuery.Proofs.Sql.Scan

/-!
# Reading written texts back

Two tools for reading what was put together from parts. `afterCode` passes over a text until a
given character is code, so that literals are passed over whole; `readSequence` reads parts with a
separator between them. Neither knows what the parts are: a reader of parts comes as an argument,
and `readSequence_intercalate` asks of it that it stops where the part ends, whenever nothing or
the separator follows (`Continues`).

The reading is bounded by the length of the text. A sequence of `n` parts has `n - 1` separators,
and none of these is empty.

Both tools are stated with what is left of the text, as readers are used one after the other: a
reader that is applied to a part with more behind it gives the part and the rest.
-/

namespace ReportQuery.Sql

/-! ### What was read -/

/-- The part of a text that stands in front of what is left of it. -/
def before (s rest : List Char) : List Char :=
  s.take (s.length - rest.length)

@[simp] theorem before_append (t rest : List Char) : before (t ++ rest) rest = t := by
  simp [before]

/-! ### Passing over literals -/

/-- What is left of a text from the first place on where the character `stop` is code. -/
def afterCode (stop : Char) : ScanState → List Char → List Char
  | _, [] => []
  | s, c :: t => if s.shows c && c = stop then c :: t else afterCode stop (s.next c) t

/-- **A sealed text is passed over**, up to the character that its code does not have. -/
theorem afterCode_append {stop : Char} {s : ScanState} {t rest : List Char}
    (hclosed : scan s t ≠ .inside) (hcode : stop ∉ code s t)
    (hrest : rest = [] ∨ (rest.head? = some stop ∧ stop ≠ '\'')) :
    afterCode stop s (t ++ rest) = rest := by
  induction t generalizing s with
  | nil =>
    rw [List.nil_append]
    rcases hrest with rfl | ⟨hhead, hquote⟩
    · rfl
    · obtain ⟨u, rfl⟩ := List.head?_eq_some_iff.1 hhead
      -- literals are closed here, so a character that is no quote is code
      have hshows : s.shows stop = true := by
        cases s with
        | outside => rfl
        | inside => exact absurd rfl hclosed
        | afterQuote => simpa [ScanState.shows] using hquote
      simp [afterCode, hshows]
  | cons c t ih =>
    rw [List.cons_append, afterCode, if_neg]
    · refine ih hclosed fun hmem ↦ hcode ?_
      rw [code]
      split
      · exact List.mem_cons_of_mem _ hmem
      · exact hmem
    · -- a stop inside `t` would be one of its code
      intro hstop
      rw [Bool.and_eq_true, decide_eq_true_eq] at hstop
      obtain ⟨hshows, rfl⟩ := hstop
      refine hcode ?_
      rw [code, if_pos hshows]
      exact List.mem_cons_self

/-! ### Sequences -/

section

variable {α : Type} (item : List Char → Option (α × List Char)) (sep : List Char)

/-- Reads parts with the separator between them, at most `fuel` of them, to the end of the text. -/
def readItems : Nat → List Char → Option (List α)
  | 0, _ => none
  | fuel + 1, s =>
    match item s with
    | none => none
    | some (a, rest) =>
      if rest = [] then some [a]
      else (sep.isPrefixOf? rest).bind fun rest ↦ (readItems fuel rest).map (a :: ·)

/-- Reads parts with the separator between them. The empty text is the empty sequence. -/
def readSequence (s : List Char) : Option (List α) :=
  if s = [] then some [] else readItems item sep (s.length + 1) s

end

/-- What may follow a part of a sequence: nothing, or the separator. -/
def Continues (sep rest : List Char) : Prop :=
  rest = [] ∨ ∃ t, rest = sep ++ t

theorem isPrefixOf?_append (t u : List Char) : t.isPrefixOf? (t ++ u) = some u := by
  induction t with
  | nil => rfl
  | cons c t ih =>
    show (if (c == c) = true then t.isPrefixOf? (t ++ u) else none) = some u
    rw [if_pos (beq_self_eq_true c), ih]

/-- Separators that are not empty make a text at least as long as its pieces are many. -/
theorem length_le_intercalate {sep : List Char} (hsep : sep ≠ []) (ts : List (List Char)) :
    ts.length ≤ (sep.intercalate ts).length + 1 := by
  have hpos := List.length_pos_iff.2 hsep
  induction ts with
  | nil => simp
  | cons t ts ih =>
    cases ts with
    | nil => simp
    | cons u ts =>
      rw [List.intercalate_cons_cons, List.length_append, List.length_append]
      simp only [List.length_cons] at ih ⊢
      omega

section

variable {α : Type} {item : List Char → Option (α × List Char)} {sep : List Char}
  {write : α → List Char}

/-- Each part is read where it ends, so all are read. -/
theorem readItems_intercalate (hsep : sep ≠ []) {as : List α} (hne : as ≠ [])
    (h : ∀ a ∈ as, ∀ rest, Continues sep rest → item (write a ++ rest) = some (a, rest))
    {fuel : Nat} (hfuel : as.length ≤ fuel) :
    readItems item sep fuel (sep.intercalate (as.map write)) = some as := by
  induction as generalizing fuel with
  | nil => exact absurd rfl hne
  | cons a as ih =>
    obtain ⟨fuel, rfl⟩ := Nat.exists_eq_add_of_le' (Nat.le_trans (by simp) hfuel : 1 ≤ fuel)
    cases as with
    | nil =>
      have hitem := h a (by simp) [] (.inl rfl)
      rw [List.append_nil] at hitem
      simp [readItems, hitem]
    | cons b as =>
      have hitem := h a (by simp) (sep ++ sep.intercalate ((b :: as).map write)) (.inr ⟨_, rfl⟩)
      have hrest := ih (by simp) (fun c hc ↦ h c (List.mem_cons_of_mem _ hc))
        (Nat.le_of_succ_le_succ hfuel)
      rw [List.map_cons, List.map_cons, List.intercalate_cons_cons, List.append_assoc, readItems]
      rw [List.map_cons] at hitem hrest
      rw [hitem]
      simp [hsep, isPrefixOf?_append, hrest]

/-- **A sequence is read back**, if its parts are not empty and each is read where it ends. -/
theorem readSequence_intercalate (hsep : sep ≠ []) {as : List α} (hne : ∀ a ∈ as, write a ≠ [])
    (h : ∀ a ∈ as, ∀ rest, Continues sep rest → item (write a ++ rest) = some (a, rest)) :
    readSequence item sep (sep.intercalate (as.map write)) = some as := by
  cases as with
  | nil => rfl
  | cons a as =>
    have htext : sep.intercalate ((a :: as).map write) ≠ [] := by
      cases as with
      | nil => simpa using hne a (by simp)
      | cons b as => simp [List.intercalate_cons_cons, hsep]
    have hlength := length_le_intercalate hsep ((a :: as).map write)
    rw [List.length_map] at hlength
    rw [readSequence, if_neg htext]
    exact readItems_intercalate hsep (by simp) h hlength

end

end ReportQuery.Sql
