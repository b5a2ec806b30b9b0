import ReportQuery.Sql.Literal

/-!
# Scanning a statement

A database reads the text of a statement from left to right. A single quote opens a literal;
inside one, two quotes are one quote character, and a lone quote closes it. This file states that
reading as a machine with three states, and what of a text is **code**: the characters outside
the literals, where each literal leaves only the quote that opens it.

## One quote is not enough to leave

Whether a quote closes a literal is decided by the character after it, so the machine has a state
`afterQuote` of its own. It treats every character but a quote as `outside` does
(`scan_cons_of_closed`, `code_cons_of_closed`), which is why texts can be put side by side as long
as none of them starts where another may have closed a literal.

## What the file is for

`Sealed P t` says that `t` closes its literals and that `P` holds of its code. `sealed_quoteText`
is the one place where doubled quotes are looked at: whatever a quoted text contains, its code is
a single quote. The rest puts sealed texts together, for every `P` that holds of two texts side by
side when it holds of both.
-/

namespace ReportQuery.Sql

/-! ### The machine -/

/-- Where a scan stands. After a quote inside a literal, the literal is closed unless another quote
follows. -/
inductive ScanState where
  | outside | inside | afterQuote
deriving Repr, DecidableEq

namespace ScanState

/-- The state after one more character. -/
def next : ScanState → Char → ScanState
  | .inside, c => if c = '\'' then .afterQuote else .inside
  | _, c => if c = '\'' then .inside else .outside

/-- A character that is read in this state is code. -/
def shows : ScanState → Char → Bool
  | .outside, _ => true
  | .inside, _ => false
  | .afterQuote, c => c ≠ '\''

end ScanState

/-- The state after a text. -/
def scan (s : ScanState) (t : List Char) : ScanState :=
  t.foldl ScanState.next s

/-- The code of a text whose scan starts in the given state. -/
def code : ScanState → List Char → List Char
  | _, [] => []
  | s, c :: t => if s.shows c then c :: code (s.next c) t else code (s.next c) t

@[simp] theorem scan_nil (s : ScanState) : scan s [] = s := rfl

@[simp] theorem scan_cons (s : ScanState) (c : Char) (t : List Char) :
    scan s (c :: t) = scan (s.next c) t := rfl

theorem scan_append (s : ScanState) (t u : List Char) : scan s (t ++ u) = scan (scan s t) u :=
  List.foldl_append

theorem code_append (s : ScanState) (t u : List Char) :
    code s (t ++ u) = code s t ++ code (scan s t) u := by
  induction t generalizing s with
  | nil => rfl
  | cons c t ih =>
    rw [List.cons_append, code, code, scan_cons, ih]
    split <;> rfl

/-! ### Texts after a closed literal -/

/-- Once the literals are closed, a character other than a quote is read as at the start. -/
theorem scan_cons_of_closed {s : ScanState} (hs : s ≠ .inside) {c : Char} (hc : c ≠ '\'')
    (t : List Char) : scan s (c :: t) = scan .outside (c :: t) := by
  cases s with
  | inside => exact absurd rfl hs
  | outside => rfl
  | afterQuote => simp [ScanState.next, hc]

theorem code_cons_of_closed {s : ScanState} (hs : s ≠ .inside) {c : Char} (hc : c ≠ '\'')
    (t : List Char) : code s (c :: t) = code .outside (c :: t) := by
  cases s with
  | inside => exact absurd rfl hs
  | outside => rfl
  | afterQuote => simp [code, ScanState.next, ScanState.shows, hc]

/-! ### Plain texts and quoted texts -/

/-- A text without quotes is all code. -/
theorem scan_of_plain {t : List Char} (h : '\'' ∉ t) : scan .outside t = .outside := by
  induction t with
  | nil => rfl
  | cons c t ih =>
    obtain ⟨hc, ht⟩ := List.ne_and_not_mem_of_not_mem_cons h
    rw [scan_cons, ScanState.next, if_neg (Ne.symm hc), ih ht]
    simp

theorem code_of_plain {t : List Char} (h : '\'' ∉ t) : code .outside t = t := by
  induction t with
  | nil => rfl
  | cons c t ih =>
    obtain ⟨hc, ht⟩ := List.ne_and_not_mem_of_not_mem_cons h
    simp [code, ScanState.next, ScanState.shows, Ne.symm hc, ih ht]

/-- Doubling the quotes of a text keeps a scan inside the literal, -/
theorem scan_doubleQuotes (t : List Char) : scan .inside (doubleQuotes t) = .inside := by
  induction t with
  | nil => rfl
  | cons c t ih =>
    rw [doubleQuotes]
    split
    · simpa [ScanState.next] using ih
    · next hc => simpa [ScanState.next, hc] using ih

/-- and none of it is code. -/
theorem code_doubleQuotes (t : List Char) : code .inside (doubleQuotes t) = [] := by
  induction t with
  | nil => rfl
  | cons c t ih =>
    rw [doubleQuotes]
    split
    · simpa [code, ScanState.next, ScanState.shows] using ih
    · next hc => simpa [code, ScanState.next, ScanState.shows, hc] using ih

@[simp] theorem toList_quoteText (s : String) :
    (quoteText s).toList = '\'' :: doubleQuotes s.toList ++ ['\''] := by
  simp [quoteText]

theorem scan_quoteText (s : String) : scan .outside (quoteText s).toList = .afterQuote := by
  rw [toList_quoteText, List.cons_append, scan_cons, scan_append]
  simp [ScanState.next, scan_doubleQuotes]

theorem code_quoteText (s : String) : code .outside (quoteText s).toList = ['\''] := by
  rw [toList_quoteText, List.cons_append, code, code_append]
  simp [ScanState.next, ScanState.shows, scan_doubleQuotes, code_doubleQuotes, code]

/-! ### Sealed texts -/

/-- The text closes its literals, and `P` holds of its code. -/
structure Sealed (P : List Char → Prop) (t : List Char) : Prop where
  closed : scan .outside t ≠ .inside
  code : P (code .outside t)

/-- A property of codes that holds of two side by side when it holds of both. -/
def Joins (P : List Char → Prop) : Prop :=
  ∀ {a b : List Char}, P a → P b → P (a ++ b)

/-- That every character is of a kind joins. -/
theorem joins_forall_mem (p : Char → Prop) : Joins fun t ↦ ∀ c ∈ t, p c := by
  intro a b ha hb c hc
  rcases List.mem_append.1 hc with h | h
  · exact ha c h
  · exact hb c h

theorem joins_not_mem (d : Char) : Joins fun t ↦ d ∉ t := by
  intro a b ha hb hd
  rcases List.mem_append.1 hd with h | h
  · exact ha h
  · exact hb h

section

variable {P : List Char → Prop}

theorem sealed_of_plain {t : List Char} (ht : '\'' ∉ t) (hP : P t) : Sealed P t := by
  refine ⟨?_, ?_⟩
  · rw [scan_of_plain ht]
    decide
  · rwa [code_of_plain ht]

/-- **A quoted text is sealed, whatever it contains.** Its code is the quote that opens it. -/
theorem sealed_quoteText (hP : P ['\'']) (s : String) : Sealed P (quoteText s).toList := by
  refine ⟨?_, ?_⟩
  · rw [scan_quoteText]
    decide
  · rwa [code_quoteText]

/-- Sealed texts side by side are sealed, unless the second one starts with a quote. -/
theorem Sealed.append (hP : Joins P) {t u : List Char} (ht : Sealed P t) (hu : Sealed P u)
    (hquote : u.head? ≠ some '\'') : Sealed P (t ++ u) := by
  cases u with
  | nil => simpa using ht
  | cons c u =>
    have hc : c ≠ '\'' := by simpa using hquote
    refine ⟨?_, ?_⟩
    · rw [scan_append, scan_cons_of_closed ht.closed hc]
      exact hu.closed
    · rw [code_append, code_cons_of_closed ht.closed hc]
      exact hP ht.code hu.code

/-- A plain text in front changes nothing, however the next text starts. -/
theorem Sealed.plain_append (hP : Joins P) {t u : List Char} (ht : '\'' ∉ t) (hPt : P t)
    (hu : Sealed P u) : Sealed P (t ++ u) := by
  refine ⟨?_, ?_⟩
  · rw [scan_append, scan_of_plain ht]
    exact hu.closed
  · rw [code_append, scan_of_plain ht, code_of_plain ht]
    exact hP hPt hu.code

/-- Sealed texts on both sides of a plain separator are sealed. -/
theorem Sealed.join (hP : Joins P) {t sep u : List Char} (ht : Sealed P t) (hsep : '\'' ∉ sep)
    (hne : sep ≠ []) (hPsep : P sep) (hu : Sealed P u) : Sealed P (t ++ sep ++ u) := by
  rw [List.append_assoc]
  -- the separator starts with no quote, so it does not reopen a literal at the end of `t`
  refine ht.append hP (hu.plain_append hP hsep hPsep) ?_
  cases sep with
  | nil => exact absurd rfl hne
  | cons c sep => simpa using (List.ne_and_not_mem_of_not_mem_cons hsep).1.symm

/-- Sealed texts with a plain separator between them are sealed. -/
theorem sealed_intercalate (hP : Joins P) (hnil : P []) {sep : List Char} (hsep : '\'' ∉ sep)
    (hne : sep ≠ []) (hPsep : P sep) {ts : List (List Char)} (h : ∀ t ∈ ts, Sealed P t) :
    Sealed P (sep.intercalate ts) := by
  induction ts with
  | nil => exact sealed_of_plain (by simp) hnil
  | cons t ts ih =>
    have ht : Sealed P t := h t (by simp)
    have hts : Sealed P (sep.intercalate ts) := ih fun u hu ↦ h u (by simp [hu])
    -- only a part that another one follows has a separator behind it
    cases ts with
    | nil => simpa using ht
    | cons u ts =>
      rw [List.intercalate_cons_cons]
      exact ht.join hP hsep hne hPsep hts

end

end ReportQuery.Sql
