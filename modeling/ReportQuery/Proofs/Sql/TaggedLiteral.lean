import ReportQuery.Proofs.Sql.UntaggedColumn

/-!
# Tagged literals

A value that is tagged as a literal is written as one, whatever it looks like. An untagged value
goes another way: a list is made of it or it is looked at before its literal is written. The two
ways end in one condition except where the look decides, which is for texts of the form of a column
outside of membership tests (`IsTakenAsColumn`).

The statement is an equivalence without hypotheses. For every comparison, every value and every
column it says when the two conditions are one, and the exceptions are given by the form of the text
and the comparison alone.
-/

namespace ReportQuery

open Sql

/-- A value that stands for a column unless it is tagged as a literal. -/
def Scalar.IsTakenAsColumn (c : Comparison) (v : Scalar) : Prop :=
  c ≠ .among ∧ ∃ s, v = .text s ∧ isColumnText s.toList = true

/-! ### The two operands -/

/-- A tagged literal is a literal, in a list where membership is tested. -/
theorem Filter.operand_literal (f : Filter) (v : Scalar) :
    { f with value := .literal v }.operand =
      if f.comparison = .among then .list [v.atom] else .atom (f.comparison.atom v) :=
  rfl

/-- An untagged value is no less a literal when it is not taken as a column. -/
theorem Filter.operand_scalar {f : Filter} {v : Scalar} (h : ¬ v.IsTakenAsColumn f.comparison) :
    { f with value := .scalar v }.operand = { f with value := .literal v }.operand := by
  rw [Filter.operand_literal, Filter.operand]
  split
  · rfl
  · next hamong =>
    cases v with
    | text s =>
      rw [FilterValue.operand, if_neg fun hcolumn ↦ h ⟨hamong, s, rfl, hcolumn⟩]
    | _ => rfl

/-- A column text that is tagged as a literal is between quotes. -/
theorem isQuoted_comparison_atom (c : Comparison) {s : String}
    (h : isColumnText s.toList = true) : IsQuoted (c.atom (.text s)).sql := by
  have hatom : (Scalar.text s).atom = .quoted s := by
    rw [atom_text, isNumeric_of_isColumnText h]
    rfl
  rw [Comparison.atom, hatom]
  exact ⟨_, rfl⟩

/-- Where a value is taken as a column, the tag changes what is written. -/
theorem right_ne_of_isTakenAsColumn {f : Filter} {v : Scalar}
    (h : v.IsTakenAsColumn f.comparison) (dateFormat : String) :
    (Condition.ofFilter dateFormat { f with value := .literal v }).right ≠
      (Condition.ofFilter dateFormat { f with value := .scalar v }).right := by
  obtain ⟨hamong, s, rfl, hcolumn⟩ := h
  have huntagged : (Condition.ofFilter dateFormat { f with value := .scalar (.text s) }).right =
      valueOperand f.comparison (.text s) := by
    rw [Condition.ofFilter]
    dsimp only
    rw [if_neg hamong]
    rfl
  intro heq
  rw [huntagged, right_ofFilter, Filter.operand_literal, if_neg hamong] at heq
  have hquoted := isQuoted_comparison_atom f.comparison hcolumn
  rw [← Operand.sql, heq] at hquoted
  exact ((notLiteral_valueOperand_iff f.comparison s).2 hcolumn).1 hquoted

/-! ### The two conditions -/

/-- The two conditions have their left sides and their operators in common. -/
theorem ofFilter_literal_eq_iff (dateFormat : String) (f : Filter) (v : Scalar) :
    Condition.ofFilter dateFormat { f with value := .literal v } =
        Condition.ofFilter dateFormat { f with value := .scalar v } ↔
      ¬ v.IsTakenAsColumn f.comparison := by
  constructor
  · intro heq htaken
    exact right_ne_of_isTakenAsColumn htaken dateFormat (congrArg Condition.right heq)
  · intro h
    have hright : (Condition.ofFilter dateFormat { f with value := .literal v }).right =
        (Condition.ofFilter dateFormat { f with value := .scalar v }).right := by
      rw [right_ofFilter, right_ofFilter, Filter.operand_scalar h]
    exact congrArg (Condition.mk (columnOperand f.column f.comparison dateFormat)
      (word f.comparison)) hright

/-- **A tag as a literal makes a difference exactly to what is taken as a column.** And what is
written for a tagged literal is a text between quotes, a numeral or one of the words for null and
the truth values, and the list of one of these where membership is tested. -/
theorem build_literal_eq_iff (before after : List Filter) (f : Filter) (v : Scalar)
    (dateFormat : String) :
    (WhereClause.build (before ++ { f with value := .literal v } :: after) dateFormat =
        WhereClause.build (before ++ { f with value := .scalar v } :: after) dateFormat ↔
      ¬ v.IsTakenAsColumn f.comparison) ∧
    ∃ t, (IsQuoted t ∨ IsBareLiteral t) ∧
      (Condition.ofFilter dateFormat { f with value := .literal v }).right =
        if f.comparison = .among then "(" ++ t ++ ")" else t := by
  constructor
  · rw [← ofFilter_literal_eq_iff dateFormat, WhereClause.build, WhereClause.build,
      WhereClause.mk.injEq, List.map_append, List.map_append, List.map_cons, List.map_cons,
      List.append_cancel_left_eq, List.cons.injEq, and_iff_left rfl]
  · rw [right_ofFilter, Filter.operand_literal]
    split
    · exact ⟨v.atom.sql, isQuoted_or_isBareLiteral (isLiteral_atom v), by simp [Operand.sql]⟩
    · exact ⟨_, isQuoted_or_isBareLiteral (isLiteral_comparison_atom f.comparison v), rfl⟩

end ReportQuery
