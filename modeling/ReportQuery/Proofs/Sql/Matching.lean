import ReportQuery.Proofs.Sql.ConditionReader
import ReportQuery.Proofs.Sql.Pattern

/-!
# What patterns match

A pattern is matched character by character: a percent sign stands for any text, an underscore for
any one character, and every other character for itself (`Matches`). There is no character that
takes these meanings away.

What a pattern asks for (`AsksFor`) is a text that it matches, if it has a percent sign, and
otherwise a text with a part that it matches. `matches_containsPattern_iff` says that the pattern
written for it matches these texts and no others. Both halves are about runs of percent signs: two
in a row match what one does, wherever they stand (`alike_doubled`), and one at each end lets a text
go on in front and behind. A pattern is matched part by part (`matches_append_iff`), so what may be
said of a run may be said of it inside a pattern, in front of a final line feed for instance.

A scalar under a pattern match is written as such a pattern between quotes, whatever its type
(`valueOperand_of_literal?`), and `readOperand` takes the quotes away again. So the text that the
database matches against is one that asks for the text of the scalar, as `containsPattern_asksFor`
states with the two cases above.
-/

namespace ReportQuery

namespace Sql

/-! ### Matching -/

/-- The sign that stands for any one character. -/
def anyOne : Char := '_'

/-- The pattern, which comes first, matches the text. -/
inductive Matches : List Char → List Char → Prop where
  | nil : Matches [] []
  | skip {p s} (skipped : List Char) : Matches p s → Matches (anyText :: p) (skipped ++ s)
  | one {p s} (c : Char) : Matches p s → Matches (anyOne :: p) (c :: s)
  | same {p s} {c : Char} : c ≠ anyText → c ≠ anyOne → Matches p s → Matches (c :: p) (c :: s)

variable {p q s : List Char}

@[simp] theorem matches_nil_iff : Matches [] s ↔ s = [] := by
  constructor
  · rintro ⟨⟩
    rfl
  · rintro rfl
    exact .nil

/-- A pattern behind any text matches the ends of the text. -/
theorem matches_anyText_iff : Matches (anyText :: p) s ↔ ∃ t, t <:+ s ∧ Matches p t := by
  constructor
  · intro h
    generalize hp : anyText :: p = p' at h
    cases h with
    | nil => cases hp
    | skip skipped h =>
      cases hp
      exact ⟨_, List.suffix_append _ _, h⟩
    | one c h => exact absurd (List.cons.inj hp).1 (by decide)
    | same hany hone h => exact absurd (List.cons.inj hp).1.symm hany
  · rintro ⟨t, ⟨skipped, rfl⟩, h⟩
    exact .skip skipped h

theorem matches_anyText : Matches [anyText] s :=
  matches_anyText_iff.2 ⟨[], List.nil_suffix, .nil⟩

/-- A pattern is matched part by part. -/
theorem matches_append_iff :
    Matches (p ++ q) s ↔ ∃ a b, s = a ++ b ∧ Matches p a ∧ Matches q b := by
  constructor
  · intro h
    -- along the pattern, since the place at which it is cut is given there
    induction p generalizing s with
    | nil => exact ⟨[], s, rfl, .nil, h⟩
    | cons c p ih =>
      rw [List.cons_append] at h
      cases h with
      | skip skipped h =>
        obtain ⟨a, b, rfl, ha, hb⟩ := ih h
        exact ⟨skipped ++ a, b, (List.append_assoc ..).symm, .skip skipped ha, hb⟩
      | one d h =>
        obtain ⟨a, b, rfl, ha, hb⟩ := ih h
        exact ⟨d :: a, b, rfl, .one d ha, hb⟩
      | same hany hone h =>
        obtain ⟨a, b, rfl, ha, hb⟩ := ih h
        exact ⟨c :: a, b, rfl, .same hany hone ha, hb⟩
  · rintro ⟨a, b, rfl, ha, hb⟩
    -- along the match of the first part, which says how much text it takes
    induction ha with
    | nil => exact hb
    | skip skipped _ ih =>
      rw [List.append_assoc]
      exact .skip skipped ih
    | one c _ ih => exact .one c ih
    | same hany hone _ ih => exact .same hany hone ih

/-- A pattern read backwards matches the text read backwards. -/
theorem Matches.reverse (h : Matches p s) : Matches p.reverse s.reverse := by
  induction h with
  | nil => exact .nil
  | skip skipped _ ih =>
    rw [List.reverse_cons, List.reverse_append]
    exact matches_append_iff.2 ⟨_, _, rfl, ih, matches_anyText⟩
  | one c _ ih =>
    rw [List.reverse_cons, List.reverse_cons]
    exact matches_append_iff.2 ⟨_, _, rfl, ih, .one c .nil⟩
  | same hany hone _ ih =>
    rw [List.reverse_cons, List.reverse_cons]
    exact matches_append_iff.2 ⟨_, _, rfl, ih, .same hany hone .nil⟩

/-! ### Matching by computation -/

/-- The pattern, which comes first, matches the text. -/
def matchesText : List Char → List Char → Bool
  | [], s => s.isEmpty
  | c :: p, s =>
    if c = anyText then s.tails.any (matchesText p)
    else match s with
      | [] => false
      | d :: s => (c = anyOne || c = d) && matchesText p s

/-- Any other character of a pattern matches the first character of the text, and the rest matches
the rest. -/
theorem matches_cons_iff {c : Char} (hc : c ≠ anyText) :
    Matches (c :: p) s ↔ ∃ d t, s = d :: t ∧ (c = anyOne ∨ c = d) ∧ Matches p t := by
  constructor
  · intro h
    cases h with
    | skip _ _ => exact absurd rfl hc
    | one d h => exact ⟨d, _, rfl, .inl rfl, h⟩
    | same _ _ h => exact ⟨c, _, rfl, .inr rfl, h⟩
  · rintro ⟨d, t, rfl, hd, h⟩
    by_cases hone : c = anyOne
    · rw [hone]
      exact .one d h
    · rw [← hd.resolve_left hone]
      exact .same hc hone h

/-- Matching is decided from left to right. -/
theorem matchesText_iff : matchesText p s = true ↔ Matches p s := by
  induction p generalizing s with
  | nil => simp [matchesText]
  | cons c p ih =>
    rw [matchesText.eq_def]
    dsimp only
    split
    next hc =>
      rw [hc, matches_anyText_iff, List.any_eq_true]
      simp only [List.mem_tails, ih]
    next hc =>
      rw [matches_cons_iff hc]
      cases s with
      | nil => simp
      | cons d s => simp [ih]

instance (p s : List Char) : Decidable (Matches p s) :=
  decidable_of_iff _ matchesText_iff

example : Matches "a_%%b".toList "axyzb".toList ∧ ¬ Matches "a_%%b".toList "ab".toList := by
  decide

/-! ### Patterns that match alike -/

/-- Both patterns match the same texts. -/
def Alike (p q : List Char) : Prop :=
  ∀ s, Matches p s ↔ Matches q s

namespace Alike

theorem symm (h : Alike p q) : Alike q p :=
  fun s ↦ (h s).symm

theorem trans {r : List Char} (h : Alike p q) (h' : Alike q r) : Alike p r :=
  fun s ↦ (h s).trans (h' s)

/-- What stands behind two alike patterns does not tell them apart. -/
theorem append_right (h : Alike p q) (r : List Char) : Alike (p ++ r) (q ++ r) := by
  intro s
  simp only [matches_append_iff, h _]

theorem reverse (h : Alike p q) : Alike p.reverse q.reverse := by
  have hreverse : ∀ r s, Matches (List.reverse r) s ↔ Matches r s.reverse := by
    intro r s
    exact ⟨fun hr ↦ by simpa using hr.reverse, fun hr ↦ by simpa using hr.reverse⟩
  intro s
  rw [hreverse, hreverse, h]

end Alike

/-- Two percent signs match what one does. -/
theorem alike_doubled (p : List Char) : Alike (anyText :: anyText :: p) (anyText :: p) := by
  intro s
  simp only [matches_anyText_iff]
  constructor
  · rintro ⟨t, ht, u, hu, h⟩
    exact ⟨u, hu.trans ht, h⟩
  · rintro ⟨t, ht, h⟩
    exact ⟨t, ht, t, List.suffix_rfl, h⟩

/-- Any text twice at the start of a pattern matches what it matches once. -/
theorem alike_collapseStart (p : List Char) : Alike (collapseStart p) p := by
  unfold collapseStart
  split
  next t =>
    induction t with
    | nil => exact (alike_doubled []).symm
    | cons c t ih =>
      by_cases hc : c = anyText
      · rw [List.dropWhile_cons_of_pos (by simpa using hc), hc]
        exact ih.trans (alike_doubled (anyText :: t)).symm
      · rw [List.dropWhile_cons_of_neg (by simpa using hc)]
        exact (alike_doubled (c :: t)).symm
  · exact fun s ↦ Iff.rfl

theorem alike_collapseBack (p : List Char) : Alike (collapseBack p) p := by
  have h := (alike_collapseStart p.reverse).reverse
  rwa [List.reverse_reverse] at h

/-- And so it is at the end of the pattern, before a line feed perhaps. -/
theorem alike_collapseEnd (p : List Char) : Alike (collapseEnd p) p := by
  rcases collapseEnd_cases p with ⟨t, rfl, h⟩ | ⟨-, h⟩
  · rw [h]
    exact (alike_collapseBack t).append_right ['\n']
  · rw [h]
    exact alike_collapseBack p

/-! ### What a pattern asks for -/

/-- The text is asked for: the pattern matches it or, when it has no percent sign, a part of it. -/
def AsksFor (p s : List Char) : Prop :=
  if anyText ∈ p then Matches p s else ∃ t, t <:+: s ∧ Matches p t

/-- Percent signs on both sides let a text go on in front and behind. -/
theorem matches_around_iff :
    Matches (anyText :: p ++ [anyText]) s ↔ ∃ t, t <:+: s ∧ Matches p t := by
  rw [List.cons_append, matches_anyText_iff]
  simp only [matches_append_iff]
  constructor
  · rintro ⟨_, htail, t, after, rfl, ht, -⟩
    exact ⟨t, (List.prefix_append t after).isInfix.trans htail.isInfix, ht⟩
  · rintro ⟨t, ⟨before, after, rfl⟩, ht⟩
    exact ⟨t ++ after, by simp [List.append_assoc], t, after, rfl, ht, matches_anyText⟩

/-- **The normal pattern matches exactly what the pattern asks for.** -/
theorem matches_containsPattern_iff : Matches (containsPattern p) s ↔ AsksFor p s := by
  rw [containsPattern, AsksFor]
  split
  · exact ((alike_collapseEnd _).trans (alike_collapseStart p)) s
  · exact matches_around_iff

end Sql

/-! ### Literals under a pattern -/

open Sql

namespace Value

/-- The value, if it is a number, a truth value or a text. -/
def scalar? : Value → Option Value
  | .bool b => some (.bool b)
  | .int n => some (.int n)
  | .float x => some (.float x)
  | .decimal d => some (.decimal d)
  | .text s => some (.text s)
  | _ => none

/-- The scalar that a filter value gives as a literal: a tagged one, or one that is no text of the
form `table.column`. -/
def literal? : Value → Option Value
  | .literal v => v.scalar?
  | .text s => if isColumnText s.toList then none else some (.text s)
  | v => v.scalar?

end Value

/-- A scalar under a pattern match is written between quotes, as what is asked for. -/
theorem literalOperand_of_scalar? {c : Comparison} {v w : Value} (hc : c.isPatternMatch = true)
    (h : v.scalar? = some w) :
    literalOperand c v = quoteText (String.ofList (containsPattern w.display.toList)) := by
  cases v with
  | null | date | time | timestamp | list | record | column | literal => cases h
  | bool | int | float | decimal | text =>
    cases h
    exact if_pos hc

/-- A value to be matched is written as its normal pattern, between quotes. -/
theorem valueOperand_of_literal? {c : Comparison} {v w : Value} (hc : c.isPatternMatch = true)
    (h : v.literal? = some w) :
    valueOperand c v = quoteText (String.ofList (containsPattern w.display.toList)) := by
  cases v with
  | literal v => exact literalOperand_of_scalar? hc h
  | text s =>
    rw [Value.literal?] at h
    split at h
    · cases h
    · next hcolumn =>
      rw [valueOperand, if_neg hcolumn]
      exact literalOperand_of_scalar? hc h
  | null | date | time | timestamp | list | record | column => cases h
  | bool b => exact literalOperand_of_scalar? (v := .bool b) hc h
  | int n => exact literalOperand_of_scalar? (v := .int n) hc h
  | float x => exact literalOperand_of_scalar? (v := .float x) hc h
  | decimal d => exact literalOperand_of_scalar? (v := .decimal d) hc h

/-- **Patterns match what they ask for**: the pattern made from any text does, and so does the
pattern that is read back from a scalar under a pattern match, for the text of that scalar. -/
theorem containsPattern_asksFor :
    (∀ p s, anyText ∈ p → (Matches (containsPattern p) s ↔ Matches p s)) ∧
      (∀ p s, anyText ∉ p →
        (Matches (containsPattern p) s ↔ ∃ t, t <:+: s ∧ Matches p t)) ∧
      ∀ (c : Comparison) (v w : Value), c.isPatternMatch = true → v.literal? = some w →
        ∃ pattern : String, readOperand (valueOperand c v) = some (.atom (.quoted pattern)) ∧
          ∀ s, Matches pattern.toList s ↔ AsksFor w.display.toList s := by
  refine ⟨fun p s hp ↦ ?_, fun p s hp ↦ ?_, fun c v w hc hv ↦ ?_⟩
  · rw [matches_containsPattern_iff, AsksFor, if_pos hp]
  · rw [matches_containsPattern_iff, AsksFor, if_neg hp]
  · refine ⟨String.ofList (containsPattern w.display.toList), ?_, fun s ↦ ?_⟩
    · rw [valueOperand_of_literal? hc hv]
      exact readOperand_sql (o := .atom (.quoted _)) trivial
    · rw [String.toList_ofList, matches_containsPattern_iff]

/-- A tagged text of the form of a column, with a quote, is asked for anywhere in a text. -/
theorem containsPattern_asksFor_tagged : ∃ pattern : String,
    readOperand (valueOperand .notLike (.literal (.text "o'neil._"))) =
      some (.atom (.quoted pattern)) ∧ Matches pattern.toList "at o'neil.x!".toList := by
  obtain ⟨pattern, hread, hmatches⟩ :=
    containsPattern_asksFor.2.2 .notLike (.literal (.text "o'neil._")) _ rfl rfl
  exact ⟨pattern, hread, (hmatches _).2 ⟨"o'neil.x".toList, ⟨"at ".toList, "!".toList, rfl⟩,
    by decide⟩⟩

end ReportQuery
