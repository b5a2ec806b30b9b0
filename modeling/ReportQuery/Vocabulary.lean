/-!
# Vocabularies

A closed set of alternatives that are written as words: join types, comparisons, kinds of
findings. A vocabulary lists its members in a fixed order, in which messages name them too.
-/

namespace ReportQuery

/-- A finite vocabulary: its members in order, and the word for each. -/
class Vocabulary (α : Type) where
  all : List α
  word : α → String

namespace Vocabulary

/-- The member that a word stands for. -/
def ofWord? {α : Type} [Vocabulary α] (w : String) : Option α :=
  (all : List α).find? fun a ↦ word a = w

/-- The words of a vocabulary. -/
def words (α : Type) [Vocabulary α] : List String :=
  (all : List α).map word

end Vocabulary

export Vocabulary (word)

end ReportQuery
