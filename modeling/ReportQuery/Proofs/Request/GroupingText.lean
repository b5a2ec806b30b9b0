import ReportQuery.Proofs.Sql.NameText
import ReportQuery.Report.Basic

/-!
# Groupings as texts

The columns to group by come as a list or as one text with commas between them. The text may have
blank characters around each name and blank segments between the commas, and **spells** the names
that it has in the other segments (`SpelledBy`). A text that spells at least one name is the list of
these names, for every rule that reads a grouping (`SpelledBy.names_text`).

The two forms part ways only when no name is left: an empty list asks for no grouping, and a blank
text asks for nothing.

## What a segment may hold

Between two commas stands a name with blank characters around it, or nothing but blank characters. A
name with a blank character inside is no name, and the rules refuse it later; it is left out of
`SpelledBy` because the list with that name is refused too, with the same words. The names of the
columns are asked to have the form of names here for one reason: a comma inside a name would be read
as two segments.
-/

namespace ReportQuery

open Sql

/-! ### Names of columns -/

/-- The text is one or more basic letters, digits and underscores. -/
def IsWord (s : List Char) : Prop :=
  s ≠ [] ∧ ∀ c ∈ s, isNamePart c = true

instance (s : List Char) : Decidable (IsWord s) :=
  decidable_of_iff (s ≠ [] ∧ s.all isNamePart = true) (and_congr Iff.rfl List.all_eq_true)

/-- The text is a word, or two with a point between them. -/
def IsColumnName (s : List Char) : Prop :=
  IsWord s ∨ ∃ table name, s = table ++ '.' :: name ∧ IsWord table ∧ IsWord name

namespace IsColumnName

variable {s : List Char}

theorem ne_nil (h : IsColumnName s) : s ≠ [] := by
  rcases h with h | ⟨table, name, rfl, -⟩
  · exact h.1
  · simp

/-- The name of a column consists of the characters of such names. -/
theorem isColumnPart (h : IsColumnName s) : ∀ c ∈ s, isColumnPart c = true := by
  rcases h with h | ⟨table, name, rfl, htable, hname⟩
  · exact fun c hc ↦ isColumnPart_of_isNamePart (h.2 c hc)
  · intro c hc
    rcases List.mem_append.1 hc with hc | hc
    · exact isColumnPart_of_isNamePart (htable.2 c hc)
    · rcases List.mem_cons.1 hc with rfl | hc
      · rfl
      · exact isColumnPart_of_isNamePart (hname.2 c hc)

theorem not_blank (h : IsColumnName s) : ∀ c ∈ s, Text.isBlank c = false :=
  fun c hc ↦ isBlank_of_isColumnPart (h.isColumnPart c hc)

/-- No comma stands in the name of a column. -/
theorem comma_not_mem (h : IsColumnName s) : ',' ∉ s :=
  fun hc ↦ Text.ne_of_class (h.isColumnPart _ hc) (by decide) rfl

end IsColumnName

/-! ### Segments -/

/-- Blank characters and nothing else. -/
def IsBlank (s : List Char) : Prop :=
  ∀ c ∈ s, Text.isBlank c = true

/-- The names are spelled by the segments: each segment is blank, or has the next name with blank
characters around it. -/
inductive SpelledBy : List (List Char) → List String → Prop
  | nil : SpelledBy [] []
  | blank {segment : List Char} {segments : List (List Char)} {names : List String} :
      IsBlank segment → SpelledBy segments names → SpelledBy (segment :: segments) names
  | name {before after : List Char} {name : String} {segments : List (List Char)}
      {names : List String} :
      IsBlank before → IsBlank after → SpelledBy segments names →
        SpelledBy ((before ++ name.toList ++ after) :: segments) (name :: names)

/-- The text of segments, with commas between them. -/
def groupingText (segments : List (List Char)) : String :=
  String.ofList ([','].intercalate segments)

theorem IsBlank.comma_not_mem {s : List Char} (h : IsBlank s) : ',' ∉ s :=
  fun hc ↦ absurd (h _ hc) (by decide)

namespace SpelledBy

variable {segments : List (List Char)} {names : List String}

/-- The segments of a spelling have no commas in them, so the text can be split at its commas. -/
theorem comma_not_mem (h : SpelledBy segments names)
    (hnames : ∀ name ∈ names, IsColumnName name.toList) : ∀ s ∈ segments, ',' ∉ s := by
  induction h with
  | nil => simp
  | blank hblank _ ih => exact List.forall_mem_cons.2 ⟨hblank.comma_not_mem, ih hnames⟩
  | name hbefore hafter _ ih =>
    obtain ⟨hname, hnames⟩ := List.forall_mem_cons.1 hnames
    refine List.forall_mem_cons.2 ⟨?_, ih hnames⟩
    simp [hbefore.comma_not_mem, hname.comma_not_mem, hafter.comma_not_mem]

/-- What is left of the segments when they are trimmed are the names. -/
theorem filterMap_trim (h : SpelledBy segments names)
    (hnames : ∀ name ∈ names, IsColumnName name.toList) :
    (segments.map Text.trim).filterMap
      (fun part ↦ if part.isEmpty then none else some (String.ofList part)) = names := by
  induction h with
  | nil => rfl
  | blank hblank _ ih =>
    rw [List.map_cons, Text.trim_of_blank hblank]
    exact ih hnames
  | @name before after name segments names hbefore hafter _ ih =>
    obtain ⟨hname, hnames⟩ := List.forall_mem_cons.1 hnames
    have hne : name.toList.isEmpty = false := by simpa using hname.ne_nil
    rw [List.map_cons, Text.trim_append hbefore hname.not_blank hafter, List.filterMap_cons,
      hne, ih hnames]
    simp

/-- **A text has the names that it spells.** -/
theorem names_text (h : SpelledBy segments names)
    (hnames : ∀ name ∈ names, IsColumnName name.toList) :
    (Grouping.text (groupingText segments)).names = names := by
  rcases segments with - | ⟨segment, segments⟩
  · cases h
    rfl
  · rw [Grouping.names, groupingText, String.toList_ofList,
      Text.splitAt_intercalate (List.cons_ne_nil _ _) (h.comma_not_mem hnames)]
    exact h.filterMap_trim hnames

end SpelledBy

/-- A list of names has exactly these names. -/
theorem Grouping.names_columns {names : List String}
    (hnames : ∀ name ∈ names, IsColumnName name.toList) :
    (Grouping.columns names).names = names := by
  refine List.filter_eq_self.2 fun name hname ↦ ?_
  have hne := (hnames name hname).ne_nil
  simpa using hne

end ReportQuery
