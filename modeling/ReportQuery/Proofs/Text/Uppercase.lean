import ReportQuery.Proofs.Text.Blank
import ReportQuery.Text.Uppercase

/-!
# Upper case and numerals

A character that has an upper-case form of its own is a letter, and so is that form: no numeral
starts with it. `OpensWord` says what is needed of the form, and `upperChar_eq_self_or` that it
holds of every character that changes. The three tables that make up the mapping are gone through
in turn; the runs are compared with the ranges of blank characters and of digits end by end, and
not character by character.

Upper case never brings a blank character into a text that has none (`isBlank_of_mem_upperChar`), so
it does not break words up.
-/

namespace ReportQuery.Text

/-- Neither a blank character nor one with which a numeral starts. -/
def OpensWord (c : Char) : Prop :=
  isBlank c = false ∧ isDecimalDigit c = false ∧ c ∉ ['+', '-', '.']

instance (c : Char) : Decidable (OpensWord c) :=
  inferInstanceAs (Decidable (_ ∧ _))

theorem toUpper_eq_self_or : ∀ n < 0x80,
    (Char.ofNat n).toUpper = Char.ofNat n ∨ OpensWord (Char.ofNat n).toUpper := by
  decide +kernel

/-- Every expansion starts with a letter. -/
theorem opensWord_of_expansion : ∀ entry ∈ upperExpansions,
    ∃ d ∈ entry.2.head?, OpensWord (Char.ofNat d) := by
  decide +kernel

/-- The upper-case forms of a run lie apart from the blank characters, from the digits and from
the signs. -/
theorem runs_apart : ∀ run ∈ upperRuns,
    0x2e < run.first + run.shift ∧
    (∀ range ∈ blankRanges, run.last + run.shift < range.1 ∨ range.2 < run.first + run.shift) ∧
    ∀ start ∈ decimalZeros, run.last + run.shift < start ∨ start + 10 ≤ run.first + run.shift := by
  decide +kernel

theorem opensWord_of_run {run : CaseRun} (hrun : run ∈ upperRuns) {n : Nat}
    (hfirst : run.first ≤ n) (hlast : n ≤ run.last) :
    OpensWord (Char.ofNat (n + run.shift).toNat) := by
  obtain ⟨hsigns, hblanks, hdigits⟩ := runs_apart run hrun
  generalize hm : (n + run.shift).toNat = m
  by_cases hvalid : m.isValidChar
  · have hchar : (Char.ofNat m).toNat = m := by
      rw [Char.ofNat, dif_pos hvalid]
      rfl
    refine ⟨?_, ?_, ?_⟩
    · rw [isBlank, inRanges, List.any_eq_false]
      intro range hrange h
      rw [Bool.and_eq_true, decide_eq_true_eq, decide_eq_true_eq, hchar] at h
      have := hblanks range hrange
      omega
    · rw [isDecimalDigit, List.any_eq_false]
      intro start hstart h
      rw [Bool.and_eq_true, decide_eq_true_eq, decide_eq_true_eq, hchar] at h
      have := hdigits start hstart
      omega
    · intro h
      have hsmall : ∀ c ∈ ['+', '-', '.'], c.toNat ≤ 0x2e := forall_mem_of_all (by decide)
      have := hsmall _ h
      omega
  · -- no run leads there; the character would be that of code zero
    rw [Char.ofNat, dif_neg hvalid]
    decide

theorem mem_of_lookup {n : Nat} {expansion : List Nat} {entries : List (Nat × List Nat)}
    (h : entries.lookup n = some expansion) : (n, expansion) ∈ entries := by
  obtain ⟨before, after, rfl, -⟩ := List.lookup_eq_some_iff.1 h
  simp

/-- A character is its own upper case, or its upper-case form starts a word. -/
theorem upperChar_eq_self_or (c : Char) :
    upperChar c = [c] ∨ ∃ d t, upperChar c = d :: t ∧ OpensWord d := by
  rw [upperChar]
  -- the basic table, the expansions to several characters, and the runs
  split
  · next hbasic =>
    have h := toUpper_eq_self_or c.toNat hbasic
    rw [Char.ofNat_toNat] at h
    rcases h with h | h
    · exact .inl (by rw [h])
    · exact .inr ⟨_, [], rfl, h⟩
  · split
    · next expansion hlookup =>
      obtain ⟨d, hd, hopens⟩ := opensWord_of_expansion _ (mem_of_lookup hlookup)
      cases expansion with
      | nil => cases hd
      | cons e t =>
        cases hd
        exact .inr ⟨Char.ofNat d, t.map Char.ofNat, rfl, hopens⟩
    · split
      · next run hfind =>
        have hcovers := List.find?_some hfind
        simp only [CaseRun.covers, Bool.and_eq_true, decide_eq_true_eq] at hcovers
        exact .inr ⟨_, [], rfl, opensWord_of_run (List.mem_of_find?_eq_some hfind)
          hcovers.1.1 hcovers.1.2⟩
      · exact .inl rfl

/-! ### Blank characters -/

/-- No expansion has a blank character. -/
theorem isBlank_of_expansion : ∀ entry ∈ upperExpansions, ∀ d ∈ entry.2,
    isBlank (Char.ofNat d) = false := by
  decide +kernel

/-- The upper-case form of a character is one character, or one of the expansions. -/
theorem upperChar_eq_singleton_or (c : Char) :
    (∃ d, upperChar c = [d]) ∨
      ∃ entry ∈ upperExpansions, upperChar c = entry.2.map Char.ofNat := by
  rw [upperChar]
  split
  · exact .inl ⟨_, rfl⟩
  · split
    · next expansion hlookup => exact .inr ⟨_, mem_of_lookup hlookup, rfl⟩
    · split <;> exact .inl ⟨_, rfl⟩

theorem upperChar_ne_nil (c : Char) : upperChar c ≠ [] := by
  rcases upperChar_eq_self_or c with h | ⟨d, t, h, -⟩ <;> simp [h]

/-- A character that is not blank has no blank character in its upper-case form. -/
theorem isBlank_of_mem_upperChar {c d : Char} (hc : isBlank c = false) (hd : d ∈ upperChar c) :
    isBlank d = false := by
  rcases upperChar_eq_singleton_or c with ⟨e, he⟩ | ⟨entry, hentry, he⟩
  · obtain rfl := List.mem_singleton.1 (he ▸ hd)
    -- a form of one character is the character itself or starts a word
    rcases upperChar_eq_self_or c with hself | ⟨f, t, hf, hopens⟩
    · obtain rfl := (List.cons.inj (hself.symm.trans he)).1
      exact hc
    · obtain rfl := (List.cons.inj (hf.symm.trans he)).1
      exact hopens.1
  · rw [he] at hd
    obtain ⟨n, hn, rfl⟩ := List.mem_map.1 hd
    exact isBlank_of_expansion entry hentry n hn

end ReportQuery.Text
