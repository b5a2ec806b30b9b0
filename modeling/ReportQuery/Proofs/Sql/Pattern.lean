import Mathlib.Data.List.Infix
import ReportQuery.Sql.Pattern

/-!
# Patterns that are asked for twice

A pattern is settled when it has a percent sign, no two of them at its start, and no two at its end
or in front of a final line feed (`IsSettled`). Asking for a settled pattern changes nothing, and
what is asked for is settled, whichever way it was made (`isSettled_containsPattern`), with one
exception: from the empty text two percent signs are made, which are two at an end. So asking twice
is asking once exactly for the texts that are not empty.

The two ends are settled one after the other, and settling the end cannot undo the start: it only
takes percent signs away at the back, so that what is left begins as the pattern began
(`collapseBack_isPrefix`). The other facts about the back are those about the start, read in
reverse.
-/

namespace ReportQuery.Sql

variable {s : List Char}

/-! ### The start -/

/-- A text that does not open with two percent signs keeps its start. -/
theorem collapseStart_eq_self (h : ¬ [anyText, anyText] <+: s) : collapseStart s = s := by
  unfold collapseStart
  split
  · exact absurd ⟨_, rfl⟩ h
  · rfl

theorem collapseStart_isSuffix (s : List Char) : collapseStart s <:+ s := by
  unfold collapseStart
  split
  next t =>
    -- the sign that is kept is the last of the run
    induction t with
    | nil => exact List.suffix_cons _ _
    | cons c t ih =>
      by_cases hc : c = anyText
      · rw [List.dropWhile_cons_of_pos (by simpa using hc), hc]
        exact ih.trans (List.suffix_cons _ _)
      · rw [List.dropWhile_cons_of_neg (by simpa using hc)]
        exact List.suffix_cons _ _
  · exact List.suffix_rfl

/-- The start is settled: it does not have two percent signs. -/
theorem not_doubled_collapseStart (s : List Char) : ¬ [anyText, anyText] <+: collapseStart s := by
  unfold collapseStart
  split
  next t =>
    rintro ⟨rest, h⟩
    have hhead := List.head?_dropWhile_not (fun c ↦ decide (c = anyText)) t
    rw [← (List.cons.inj h).2] at hhead
    simp at hhead
  next hne =>
    rintro ⟨rest, rfl⟩
    exact hne rest rfl

/-- Collapsing the start a second time changes nothing. -/
theorem collapseStart_collapseStart (s : List Char) :
    collapseStart (collapseStart s) = collapseStart s :=
  collapseStart_eq_self (not_doubled_collapseStart s)

theorem head?_collapseStart (s : List Char) : (collapseStart s).head? = s.head? := by
  unfold collapseStart
  split <;> rfl

theorem mem_collapseStart (h : anyText ∈ s) : anyText ∈ collapseStart s := by
  unfold collapseStart
  split
  · exact List.mem_cons_self
  · exact h

/-! ### The end -/

theorem collapseBack_isPrefix (s : List Char) : collapseBack s <+: s := by
  have h := collapseStart_isSuffix s.reverse
  rwa [← List.reverse_prefix, List.reverse_reverse] at h

theorem collapseBack_collapseBack (s : List Char) :
    collapseBack (collapseBack s) = collapseBack s := by
  rw [collapseBack, collapseBack, List.reverse_reverse, collapseStart_collapseStart]

theorem getLast?_collapseBack (s : List Char) : (collapseBack s).getLast? = s.getLast? := by
  rw [collapseBack, List.getLast?_reverse, head?_collapseStart, List.head?_reverse]

theorem mem_collapseBack (h : anyText ∈ s) : anyText ∈ collapseBack s :=
  List.mem_reverse.2 (mem_collapseStart (List.mem_reverse.2 h))

/-- A pattern that does not end in any text twice is left as it is. -/
theorem collapseBack_eq_self (h : ¬ [anyText, anyText] <:+ s) : collapseBack s = s := by
  rw [collapseBack, collapseStart_eq_self, List.reverse_reverse]
  rwa [← List.reverse_prefix] at h

/-- A line feed at the end is left aside. -/
theorem collapseEnd_concat (t : List Char) :
    collapseEnd (t ++ ['\n']) = collapseBack t ++ ['\n'] := by
  rw [collapseEnd, if_pos List.getLast?_concat, List.dropLast_concat]

theorem collapseEnd_of_ne (h : s.getLast? ≠ some '\n') : collapseEnd s = collapseBack s :=
  if_neg h

/-- A text ends in a line feed, in front of which its end is settled, or it is settled as it is. -/
theorem collapseEnd_cases (s : List Char) :
    (∃ t, s = t ++ ['\n'] ∧ collapseEnd s = collapseBack t ++ ['\n']) ∨
      (s.getLast? ≠ some '\n' ∧ collapseEnd s = collapseBack s) := by
  by_cases h : s.getLast? = some '\n'
  · obtain ⟨t, rfl⟩ := List.getLast?_eq_some_iff.1 h
    exact .inl ⟨t, rfl, collapseEnd_concat t⟩
  · exact .inr ⟨h, collapseEnd_of_ne h⟩

/-- Collapsing the end a second time changes nothing. -/
theorem collapseEnd_collapseEnd (s : List Char) :
    collapseEnd (collapseEnd s) = collapseEnd s := by
  rcases collapseEnd_cases s with ⟨t, -, h⟩ | ⟨hlast, h⟩
  · rw [h, collapseEnd_concat, collapseBack_collapseBack]
  · rw [h, collapseEnd_of_ne (by rwa [getLast?_collapseBack]), collapseBack_collapseBack]

theorem mem_collapseEnd (h : anyText ∈ s) : anyText ∈ collapseEnd s := by
  rcases collapseEnd_cases s with ⟨t, rfl, hend⟩ | ⟨-, hend⟩
  · have ht : anyText ∈ t := by simpa [anyText] using h
    rw [hend]
    exact List.mem_append_left _ (mem_collapseBack ht)
  · rw [hend]
    exact mem_collapseBack h

/-- Settling the end does not open the text with two percent signs. -/
theorem not_doubled_collapseEnd (h : ¬ [anyText, anyText] <+: s) :
    ¬ [anyText, anyText] <+: collapseEnd s := by
  rcases collapseEnd_cases s with ⟨t, rfl, hend⟩ | ⟨-, hend⟩
  · rw [hend, List.prefix_concat_iff]
    rintro (heq | hdoubled)
    · have hlast := congrArg List.getLast? heq
      simp [anyText] at hlast
    · exact h ((hdoubled.trans (collapseBack_isPrefix t)).trans (List.prefix_append _ _))
  · rw [hend]
    exact fun hdoubled ↦ h (hdoubled.trans (collapseBack_isPrefix s))

/-! ### Settled patterns -/

/-- The pattern has a percent sign, and neither end has two. -/
structure IsSettled (p : List Char) : Prop where
  mem : anyText ∈ p
  start_eq : collapseStart p = p
  end_eq : collapseEnd p = p

/-- A settled pattern is its own normal form. -/
theorem IsSettled.containsPattern_eq {p : List Char} (h : IsSettled p) : containsPattern p = p := by
  rw [containsPattern, if_pos h.mem, h.start_eq, h.end_eq]

/-- Percent signs around a text with none of its own do not meet. -/
theorem not_doubled_around (hs : s ≠ []) (h : anyText ∉ s) :
    ¬ [anyText, anyText] <+: anyText :: s ++ [anyText] := by
  rintro ⟨rest, heq⟩
  cases s with
  | nil => exact hs rfl
  | cons c s =>
    rw [List.cons_append, List.cons_append] at heq
    have hc : anyText = c := (List.cons.inj (List.cons.inj heq).2).1
    exact h (hc ▸ List.mem_cons_self)

/-- **What is asked for is settled**, unless it was made from the empty text. -/
theorem isSettled_containsPattern (hs : s ≠ []) : IsSettled (containsPattern s) := by
  rw [containsPattern]
  split
  next h =>
    refine ⟨mem_collapseEnd (mem_collapseStart h), ?_, collapseEnd_collapseEnd _⟩
    exact collapseStart_eq_self (not_doubled_collapseEnd (not_doubled_collapseStart s))
  next h =>
    have hlast : (anyText :: s ++ [anyText]).getLast? ≠ some '\n' := by
      rw [List.getLast?_concat]
      decide
    have hback : ¬ [anyText, anyText] <:+ anyText :: s ++ [anyText] := by
      -- read in reverse, the text has percent signs around it still
      rw [← List.reverse_prefix]
      simpa using not_doubled_around (s := s.reverse) (by simpa using hs) (by simpa using h)
    refine ⟨List.mem_cons_self, collapseStart_eq_self (not_doubled_around hs h), ?_⟩
    rw [collapseEnd_of_ne hlast, collapseBack_eq_self hback]

/-- **Asking twice is asking once**, exactly for the texts that are not empty. -/
theorem containsPattern_containsPattern_iff (s : List Char) :
    containsPattern (containsPattern s) = containsPattern s ↔ s ≠ [] := by
  constructor
  · rintro h rfl
    exact absurd h (by decide)
  · exact fun h ↦ (isSettled_containsPattern h).containsPattern_eq

/-- From the empty text two percent signs are made, and from these one. -/
theorem containsPattern_empty : containsPattern [] = [anyText, anyText] ∧
    containsPattern (containsPattern []) = [anyText] := by
  decide

end ReportQuery.Sql
