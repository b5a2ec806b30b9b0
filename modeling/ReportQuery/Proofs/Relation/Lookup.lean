import ReportQuery.Relation.Graph

/-!
# Looking up edges

The graph answers from a table of neighbours that is filled edge by edge, and it answers what a
search through the declaration would: the edge between two tables is the **first** declared edge
that links them, in whichever order the two are named (`Graph.edge?_eq_find?`).

The table is never compared with the list of edges as a whole. One more edge changes the answer
for exactly the pairs that it links and that had no answer (`Adjacency.edgeIn?_link`), so the
answers of the filled table are the answers of the empty one, continued through the list.

Names of tables are any scalars and are compared by `Scalar.sameName`; for texts that is
equality (`Scalar.sameName_text_iff`), which turns `Edge.links` into the plain statement
`Edge.Relates` on names.
-/

namespace ReportQuery

namespace Scalar

/-! ### Names as an equivalence -/

/-- Scalars are the same name exactly when they have the same key. -/
theorem sameName_iff {a b : Scalar} : a.sameName b = true ↔ a.key = b.key := by
  simp [sameName]

/-- Two forms of one name answer alike against any other. -/
theorem sameName_congr_right {a b : Scalar} (h : a.sameName b = true) (c : Scalar) :
    c.sameName a = c.sameName b := by
  rw [sameName, sameName, sameName_iff.1 h]

/-- Only a text has the same name as a text. -/
theorem sameName_text_iff {a : Scalar} {s : String} :
    a.sameName (.text s) = true ↔ a = .text s := by
  rw [sameName_iff, key_text]
  cases a with
  | float x =>
    rcases h : x.toInt? with - | n <;> simp [key, h]
  | _ => simp [key]

end Scalar

namespace NameTable

variable {α : Type}

/-! ### Entries after a change -/

@[simp] theorem find?_nil (name : Scalar) : find? name ([] : NameTable α) = none := rfl

theorem find?_cons (name key : Scalar) (v : α) (rest : NameTable α) :
    find? name ((key, v) :: rest) = if key.sameName name then some v else find? name rest := by
  by_cases h : key.sameName name = true <;> simp [find?, h]

/-- An entry at the end is found only when no other is found before it. -/
theorem find?_concat (name key : Scalar) (v : α) (table : NameTable α) :
    find? name (table ++ [(key, v)]) =
      (find? name table).or (if key.sameName name then some v else none) := by
  induction table with
  | nil => simp [find?_cons]
  | cons entry rest ih =>
    rw [List.cons_append, find?_cons, find?_cons, ih]
    by_cases h : entry.1.sameName name = true <;> simp [h]

/-- Two forms of one name have the same entry. -/
theorem find?_congr {a b : Scalar} (h : a.sameName b = true) (table : NameTable α) :
    find? a table = find? b table := by
  simp only [find?, Scalar.sameName_congr_right h]

/-- An entry that is there stays; a new one is found under its name only. -/
theorem find?_insertNew (a b : Scalar) (v : α) (table : NameTable α) :
    find? b (insertNew a v table) =
      (find? b table).or (if a.sameName b then some v else none) := by
  rcases hfind : find? a table with - | w
  · rw [insertNew, hfind, Option.isSome_none, if_neg Bool.false_ne_true, find?_concat]
  · rw [insertNew, hfind, Option.isSome_some, if_pos rfl]
    by_cases hab : a.sameName b = true
    · rw [← find?_congr hab, hfind, Option.some_or]
    · rw [if_neg hab, Option.or_none]

/-- A change under one name is seen under that name only. -/
theorem find?_modify (a b : Scalar) (f : α → α) (table : NameTable α) :
    find? b (modify a f table) =
      (find? b table).map (if a.sameName b then f else id) := by
  induction table with
  | nil => rfl
  | cons entry rest ih =>
    obtain ⟨key, v⟩ := entry
    have hmodify : modify a f ((key, v) :: rest) =
        (key, if key.sameName a then f v else v) :: modify a f rest := by
      by_cases hka : key.sameName a = true <;> simp [modify, hka]
    rw [hmodify, find?_cons, find?_cons, ih]
    by_cases hkb : key.sameName b = true
    · have hka : key.sameName a = a.sameName b := by
        rw [Bool.eq_iff_iff, Scalar.sameName_iff, Scalar.sameName_iff, Scalar.sameName_iff.1 hkb]
        exact eq_comm
      by_cases hab : a.sameName b = true <;> simp [hkb, hka, hab]
    · simp [hkb]

end NameTable

namespace Relation

/-- The edge relates the tables of these two names, whichever of them owns the column. -/
def Edge.Relates (e : Edge) (a b : String) : Prop :=
  (e.owner = .text a ∧ e.referenced = .text b) ∨ (e.owner = .text b ∧ e.referenced = .text a)

/-- Between texts, linking is relating. -/
theorem Edge.links_text_iff {e : Edge} {a b : String} :
    e.links (.text a) (.text b) = true ↔ e.Relates a b := by
  simp only [links, Relates, Bool.or_eq_true, Bool.and_eq_true, Scalar.sameName_text_iff]

namespace Adjacency

/-- The edge that a table of neighbours holds for two names. -/
def edgeIn? (adjacency : Adjacency) (a b : Scalar) : Option Edge :=
  (NameTable.find? a adjacency).bind (NameTable.find? b)

/-- **One more edge** answers for the pairs that it links and that had no answer before, and
changes nothing else. -/
theorem edgeIn?_link (adjacency : Adjacency) (e : Edge) (a b : Scalar) :
    edgeIn? (adjacency.link e) a b =
      (edgeIn? adjacency a b).or (if e.links a b then some e else none) := by
  simp only [edgeIn?, link, NameTable.find?_modify, NameTable.find?_insertNew, Edge.links]
  -- each of the two names may be that of either end of the edge
  rcases NameTable.find? a adjacency with - | neighbours <;>
    by_cases hoa : e.owner.sameName a = true <;>
    by_cases hra : e.referenced.sameName a = true <;>
    by_cases hob : e.owner.sameName b = true <;>
    by_cases hrb : e.referenced.sameName b = true <;>
    simp [hoa, hra, hob, hrb, NameTable.find?_insertNew]

/-- Filling a table edge by edge continues its answers through the list of edges. -/
theorem edgeIn?_foldl_link (edges : List Edge) (adjacency : Adjacency) (a b : Scalar) :
    edgeIn? (edges.foldl link adjacency) a b =
      (edgeIn? adjacency a b).or (edges.find? fun e ↦ e.links a b) := by
  induction edges generalizing adjacency with
  | nil => simp
  | cons e rest ih =>
    rw [List.foldl_cons, ih, edgeIn?_link, Option.or_assoc, List.find?_cons]
    by_cases h : e.links a b = true <;> simp [h]

end Adjacency

namespace Graph

/-- **The first declared edge answers**, in whichever order the two tables are named. -/
theorem edge?_eq_find? (g : Graph) (a b : Scalar) :
    g.edge? a b = g.edges.find? fun e ↦ e.links a b := by
  have h := Adjacency.edgeIn?_foldl_link g.edges [] a b
  rw [edge?, g.adjacency_eq, Adjacency.ofEdges]
  simpa [Adjacency.edgeIn?, NameTable.find?] using h

/-- No edge answers exactly when no declared edge relates the two names. -/
theorem edge?_text_eq_none_iff {g : Graph} {a b : String} :
    g.edge? (.text a) (.text b) = none ↔ ∀ e ∈ g.edges, ¬ e.Relates a b := by
  rw [edge?_eq_find?, List.find?_eq_none]
  exact forall₂_congr fun e _ ↦ not_congr Edge.links_text_iff

/-- An edge that answers is declared, relates the two names, and no earlier one does. -/
theorem edge?_text_eq_some_iff {g : Graph} {a b : String} {e : Edge} :
    g.edge? (.text a) (.text b) = some e ↔
      e.Relates a b ∧ ∃ before after, g.edges = before ++ e :: after ∧
        ∀ e' ∈ before, ¬ e'.Relates a b := by
  rw [edge?_eq_find?, List.find?_eq_some_iff_append, Edge.links_text_iff]
  refine and_congr Iff.rfl (exists_congr fun before ↦ exists_congr fun after ↦
    and_congr Iff.rfl (forall₂_congr fun e' _ ↦ ?_))
  rw [← Edge.links_text_iff, Bool.not_eq_true', Bool.not_eq_true]

end Graph

end Relation

end ReportQuery
