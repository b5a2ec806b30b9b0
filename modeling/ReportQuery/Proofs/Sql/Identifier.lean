import ReportQuery.Proofs.Sql.NameText
import ReportQuery.Sql.Clause

/-!
# Identifiers

An identifier is a plain name, or two with a point between them, to the last character
(`IsIdentifier`). The rules on names accept a little more, an identifier with one line feed behind
it (`IsIdentifierLine`), and that line feed is the whole difference (`isIdentifier_iff`).

A name is embedded as it is, or with its point read as an underscore when it becomes a key of the
result. `underscored` is that reading on characters, and both kinds of texts are closed under it.

The line feed is a matter of the rules and not of names: they look for the end of a text and are
content with the end of its first line. Everything that is proved of accepted names is proved of
lines first, and for identifiers where no line feed can be there.
-/

namespace ReportQuery.Sql

/-! ### Identifiers and lines of one identifier -/

/-- Exactly a plain name, or exactly two with a point between them. -/
def IsIdentifier (s : String) : Prop :=
  isPlainName s.toList = true ∨ ∃ table name : String, s = table ++ "." ++ name ∧
    isPlainName table.toList = true ∧ isPlainName name.toList = true

/-- An identifier, perhaps with one line feed behind it. -/
def IsIdentifierLine (s : String) : Prop :=
  ∃ name, IsIdentifier name ∧ (s = name ∨ s = name ++ "\n")

/-- A plain column is a name, or two with a point between them. -/
theorem isIdentifier_of_isPlainColumn {s : List Char} (h : isPlainColumn s = true) :
    IsIdentifier (String.ofList s) := by
  rcases exists_of_isPlainColumn h with h | ⟨table, name, rfl, htable, hname⟩
  · exact .inl (by rwa [String.toList_ofList])
  · refine .inr ⟨String.ofList table, String.ofList name, String.toList_inj.1 ?_,
      by rwa [String.toList_ofList], by rwa [String.toList_ofList]⟩
    simp

/-- A text is what is left of it without a final line feed, and perhaps that line feed. -/
theorem eq_or_eq_append_lineFeed (s : String) :
    s = String.ofList (dropFinalNewline s.toList) ∨
      s = String.ofList (dropFinalNewline s.toList) ++ "\n" := by
  rcases exists_dropFinalNewline s.toList with h | h
  · exact .inl (by rw [← h, String.ofList_toList])
  · refine .inr (String.toList_inj.1 ?_)
    rw [String.toList_append, String.toList_ofList]
    exact h

/-- What is accepted as a column is a name, with one line feed behind it at most. -/
theorem isIdentifierLine_of_acceptsColumn {s : String} (h : acceptsColumn s = true) :
    IsIdentifierLine s :=
  ⟨_, isIdentifier_of_isPlainColumn h, eq_or_eq_append_lineFeed s⟩

theorem isIdentifierLine_of_acceptsTable {s : String} (h : acceptsTable s = true) :
    IsIdentifierLine s :=
  ⟨_, .inl (by rwa [String.toList_ofList]), eq_or_eq_append_lineFeed s⟩

/-- The characters of an identifier are those of names and points. -/
theorem isColumnPart_of_isIdentifier {s : String} (h : IsIdentifier s) :
    ∀ c ∈ s.toList, isColumnPart c = true := by
  have hpart : ∀ t : String, isPlainName t.toList = true → ∀ c ∈ t.toList, isColumnPart c = true :=
    fun t ht c hc ↦ isColumnPart_of_isNamePart (isNamePart_of_isPlainName ht c hc)
  rcases h with h | ⟨table, name, rfl, htable, hname⟩
  · exact hpart s h
  · intro c hc
    rw [String.toList_append, String.toList_append, List.mem_append, List.mem_append] at hc
    rcases hc with (hc | hc) | hc
    · exact hpart table htable c hc
    · rw [List.mem_singleton.1 hc]
      decide
    · exact hpart name hname c hc

theorem not_mem_of_isPlainName {s : List Char} (h : isPlainName s = true) : '.' ∉ s :=
  fun hmem ↦ absurd (isNamePart_of_isPlainName h _ hmem) (by decide)

theorem isPlainColumn_of_isIdentifier {s : String} (h : IsIdentifier s) :
    isPlainColumn s.toList = true := by
  rcases h with h | ⟨table, name, rfl, htable, hname⟩
  · rw [isPlainColumn, Text.splitAt_eq_singleton (not_mem_of_isPlainName h)]
    exact h
  · rw [String.toList_append, String.toList_append, List.append_assoc,
      show ".".toList = ['.'] from rfl, List.singleton_append, isPlainColumn,
      Text.splitAt_append (not_mem_of_isPlainName htable),
      Text.splitAt_eq_singleton (not_mem_of_isPlainName hname)]
    exact Bool.and_eq_true_iff.2 ⟨htable, hname⟩

/-- **The rule on columns accepts the lines of one identifier**, and nothing else. -/
theorem acceptsColumn_iff {s : String} : acceptsColumn s = true ↔ IsIdentifierLine s := by
  refine ⟨isIdentifierLine_of_acceptsColumn, ?_⟩
  rintro ⟨name, hname, hs⟩
  have hlineFeed : '\n' ∉ name.toList := fun hmem ↦
    absurd (isColumnPart_of_isIdentifier hname _ hmem) (by decide)
  have hdrop : dropFinalNewline s.toList = name.toList := by
    rcases hs with rfl | rfl
    · exact dropFinalNewline_eq_self hlineFeed
    · rw [String.toList_append]
      exact dropFinalNewline_append name.toList
  rw [acceptsColumn, hdrop]
  exact isPlainColumn_of_isIdentifier hname

/-- **A line feed is all that tells** a line of one identifier from an identifier. -/
theorem isIdentifier_iff {s : String} (h : IsIdentifierLine s) :
    IsIdentifier s ↔ '\n' ∉ s.toList := by
  constructor
  · intro hs hmem
    exact absurd (isColumnPart_of_isIdentifier hs _ hmem) (by decide)
  · intro hs
    obtain ⟨name, hname, rfl | rfl⟩ := h
    · exact hname
    · exact absurd (by simp) hs

/-! ### Points read as underscores -/

/-- The character as it stands in a key of the result. -/
def underscored (c : Char) : Char :=
  if c = '.' then '_' else c

@[simp] theorem toList_columnAlias (s : String) :
    (columnAlias s).toList = s.toList.map underscored :=
  String.toList_ofList

theorem columnAlias_append (s t : String) : columnAlias (s ++ t) = columnAlias s ++ columnAlias t :=
  String.toList_inj.1 (by simp)

theorem map_underscored_of_not_mem {s : List Char} (h : '.' ∉ s) : s.map underscored = s := by
  refine (List.map_congr_left fun c hc ↦ ?_).trans (List.map_id s)
  exact if_neg (by rintro rfl; exact h hc)

/-- A text without a point is a key as it is. -/
theorem columnAlias_of_not_mem {s : String} (h : '.' ∉ s.toList) : columnAlias s = s :=
  String.toList_inj.1 ((toList_columnAlias s).trans (map_underscored_of_not_mem h))

theorem isPlainName_append {s t : List Char} (hs : isPlainName s = true)
    (ht : ∀ c ∈ t, isNamePart c = true) : isPlainName (s ++ t) = true := by
  cases s with
  | nil => cases hs
  | cons c s =>
    rw [isPlainName, Bool.and_eq_true] at hs
    rw [List.cons_append, isPlainName, Bool.and_eq_true, List.all_append, Bool.and_eq_true]
    exact ⟨hs.1, hs.2, List.all_eq_true.2 ht⟩

/-- An identifier becomes a plain name. -/
theorem isPlainName_columnAlias {s : String} (h : IsIdentifier s) :
    isPlainName (columnAlias s).toList = true := by
  rcases h with h | ⟨table, name, rfl, htable, hname⟩
  · rwa [columnAlias_of_not_mem (not_mem_of_isPlainName h)]
  · rw [columnAlias_append, columnAlias_append,
      columnAlias_of_not_mem (not_mem_of_isPlainName htable),
      columnAlias_of_not_mem (not_mem_of_isPlainName hname), String.toList_append,
      String.toList_append, List.append_assoc]
    refine isPlainName_append htable fun c hc ↦ ?_
    rcases List.mem_append.1 hc with hc | hc
    · rw [List.mem_singleton.1 hc]
      decide
    · exact isNamePart_of_isPlainName hname c hc

/-- The alias of an identifier is one too. -/
theorem isIdentifierLine_columnAlias {s : String} (h : IsIdentifierLine s) :
    IsIdentifierLine (columnAlias s) := by
  obtain ⟨name, hname, rfl | rfl⟩ := h
  · exact ⟨_, .inl (isPlainName_columnAlias hname), .inl rfl⟩
  · refine ⟨_, .inl (isPlainName_columnAlias hname), .inr ?_⟩
    rw [columnAlias_append]
    rfl

theorem isPlainName_word : ∀ f : AggregateFunction, isPlainName (word f).toList = true := by
  intro f
  cases f <;> decide

/-- The key of an aggregate is a plain name when its column is an identifier. -/
theorem isPlainName_resultAlias {a : Aggregate} (h : IsIdentifier a.column) :
    isPlainName a.resultAlias.toList = true := by
  rw [Aggregate.resultAlias, String.toList_append, String.toList_append, List.append_assoc]
  refine isPlainName_append (isPlainName_word a.function) fun c hc ↦ ?_
  rcases List.mem_append.1 hc with hc | hc
  · rw [List.mem_singleton.1 hc]
    decide
  · exact isNamePart_of_isPlainName (isPlainName_columnAlias h) c hc

/-- The alias of an aggregate is an identifier when its column is. -/
theorem isIdentifierLine_resultAlias {a : Aggregate} (h : IsIdentifierLine a.column) :
    IsIdentifierLine a.resultAlias := by
  obtain ⟨name, hname, hcolumn⟩ := h
  have halias := isPlainName_resultAlias (a := ⟨a.function, name⟩) hname
  refine ⟨_, .inl halias, ?_⟩
  rcases hcolumn with hcolumn | hcolumn
  · exact .inl (by rw [Aggregate.resultAlias, hcolumn]; rfl)
  · refine .inr ?_
    rw [Aggregate.resultAlias, hcolumn, columnAlias_append, ← String.append_assoc]
    rfl

end ReportQuery.Sql
