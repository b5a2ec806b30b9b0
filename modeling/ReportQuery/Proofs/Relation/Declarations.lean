import Mathlib.Data.List.Induction
import ReportQuery.Proofs.Relation.Lookup

/-!
# What a graph says of its declarations

A graph answers every question from its table of neighbours, and each answer is one about the
list of declared edges alone (`Graph.AnswersFor`): the edge between two tables is the first that
links them, the neighbours of a table and the tables themselves stand in the order in which the
declarations bring them up, and nothing stands twice.

Tables and neighbours are lists of the same kind. Something is declared, it brings up at most one
name that is not there yet, and that name goes to the end. `ListedFrom` says what such a list owes
to what was declared, with the relation between the two as a parameter: for the tables the
declared are the ends of the edges, and for the neighbours of a table the edges themselves.
`ListedFrom.add` and `ListedFrom.skip` are the two things that one more declaration can do.

An edge from a table to itself brings up its table as its own neighbour, once: the second of the
two writes that the edge makes finds the name there (`addName_of_known`).

## What has to be kept

One edge is added at a time, and after each addition the table of neighbours has to be what the
edges so far make of it. Three things are kept for that: the names of the table are the ends of the
edges in order of appearance, the neighbours under each name are the other ends, in order of
appearance too, and what is found between two names is the first edge that links them. The third is
proved elsewhere (`Adjacency.edgeIn?_foldl_link`); the first two are instances of `ListedFrom`.
-/

namespace ReportQuery

/-! ### Names in order of appearance -/

namespace NameTable

variable {α : Type}

/-- The names with one more at the end, unless it is among them. -/
def addName (name : Scalar) (names : List Scalar) : List Scalar :=
  if names.any (·.sameName name) then names else names ++ [name]

@[simp] theorem names_nil : names ([] : NameTable α) = [] := rfl

/-- A name is found exactly when the table has one that is spelled as the same name. -/
theorem isSome_find?_iff {name : Scalar} {table : NameTable α} :
    (find? name table).isSome = true ↔ ∃ n ∈ names table, n.sameName name = true := by
  simp only [find?, Option.isSome_map, List.find?_isSome, names, List.mem_map,
    exists_exists_and_eq_and]

/-- A new entry adds its name, if that is new. -/
theorem names_insertNew (name : Scalar) (a : α) (table : NameTable α) :
    names (insertNew name a table) = addName name (names table) := by
  have hknown : (find? name table).isSome = (names table).any (·.sameName name) := by
    rw [Bool.eq_iff_iff, isSome_find?_iff, List.any_eq_true]
  rw [insertNew, addName, hknown]
  split <;> simp [names]

@[simp] theorem names_modify (name : Scalar) (f : α → α) (table : NameTable α) :
    names (modify name f table) = names table := by
  rw [names, names, modify, List.map_map]
  refine List.map_congr_left fun entry _ ↦ ?_
  by_cases h : entry.1.sameName name = true <;> simp [h]

/-- A known name is not added again. -/
theorem addName_of_known {name n : Scalar} {names : List Scalar} (hn : n ∈ names)
    (h : n.sameName name = true) : addName name names = names :=
  if_pos (List.any_eq_true.2 ⟨n, hn, h⟩)

end NameTable

/-- The names are those that the declared bring up, each once, in the order in which they are first
brought up. -/
structure ListedFrom {α : Type} (brings : α → Scalar → Bool) (declared : List α)
    (names : List Scalar) : Prop where
  mem_iff : ∀ b, (∃ n ∈ names, n.sameName b = true) ↔ ∃ x ∈ declared, brings x b = true
  distinct : names.Pairwise fun b c ↦ b.sameName c = false
  ordered : names.Pairwise fun b c ↦
    declared.findIdx (brings · b) < declared.findIdx (brings · c)

namespace ListedFrom

variable {α : Type} {brings : α → Scalar → Bool} {declared : List α} {names : List Scalar}

theorem nil (brings : α → Scalar → Bool) : ListedFrom brings [] [] where
  mem_iff b := by simp
  distinct := .nil
  ordered := .nil

/-- A listed name is brought up somewhere. -/
theorem findIdx_lt_length (h : ListedFrom brings declared names) {b : Scalar} (hb : b ∈ names) :
    declared.findIdx (brings · b) < declared.length :=
  List.findIdx_lt_length.2 ((h.mem_iff b).1 ⟨b, hb, Scalar.sameName_iff.2 rfl⟩)

/-- What is declared later does not change where a listed name first comes up. -/
theorem findIdx_concat (h : ListedFrom brings declared names) {b : Scalar} (hb : b ∈ names)
    (x : α) : (declared ++ [x]).findIdx (brings · b) = declared.findIdx (brings · b) := by
  rw [List.findIdx_append, if_pos (h.findIdx_lt_length hb)]

/-- One more declaration comes after all that were there. -/
theorem ordered_concat (h : ListedFrom brings declared names) (x : α) :
    names.Pairwise fun b c ↦
      (declared ++ [x]).findIdx (brings · b) < (declared ++ [x]).findIdx (brings · c) := by
  refine h.ordered.imp_of_mem fun hb hc hlt ↦ ?_
  rwa [h.findIdx_concat hb, h.findIdx_concat hc]

/-- **One more that brings up nothing** leaves the names as they are. -/
theorem skip (h : ListedFrom brings declared names) {x : α} (hx : ∀ b, brings x b = false) :
    ListedFrom brings (declared ++ [x]) names where
  mem_iff b := by simp [h.mem_iff b, or_and_right, exists_or, hx b]
  distinct := h.distinct
  ordered := h.ordered_concat x

/-- **One more that brings up a name** puts it at the end, unless it is there. -/
theorem add (h : ListedFrom brings declared names) {x : α} {name : Scalar}
    (hx : ∀ b, brings x b = name.sameName b) :
    ListedFrom brings (declared ++ [x]) (NameTable.addName name names) := by
  have hdeclared : ∀ b, (∃ y ∈ declared ++ [x], brings y b = true) ↔
      (∃ n ∈ names, n.sameName b = true) ∨ name.sameName b = true := by
    intro b
    simp [h.mem_iff b, or_and_right, exists_or, hx b]
  by_cases hknown : ∃ n ∈ names, n.sameName name = true
  · obtain ⟨n, hn, hsame⟩ := hknown
    rw [NameTable.addName_of_known hn hsame]
    refine ⟨fun b ↦ ?_, h.distinct, h.ordered_concat x⟩
    -- the name brought up is that of a listed one
    rw [hdeclared, or_iff_left_of_imp]
    intro hb
    refine ⟨n, hn, ?_⟩
    rw [Scalar.sameName_iff, Scalar.sameName_iff.1 hsame, Scalar.sameName_iff.1 hb]
  · have hnew : ∀ n ∈ names, n.sameName name = false := by simpa using hknown
    have hfresh : ¬ declared.findIdx (brings · name) < declared.length := by
      rwa [List.findIdx_lt_length, ← h.mem_iff]
    rw [NameTable.addName, if_neg (by simpa using hnew)]
    refine ⟨fun b ↦ ?_, ?_, ?_⟩
    · rw [hdeclared]
      simp [or_and_right, exists_or]
    · exact List.pairwise_append.2 ⟨h.distinct, List.pairwise_singleton _ _, by simpa using hnew⟩
    · refine List.pairwise_append.2 ⟨h.ordered_concat x, List.pairwise_singleton _ _, ?_⟩
      intro b hb c hc
      obtain rfl := List.mem_singleton.1 hc
      have hlt := h.findIdx_lt_length hb
      rw [h.findIdx_concat hb, List.findIdx_append, if_neg hfresh]
      omega

end ListedFrom

namespace Relation

namespace Edge

/-- The two tables of an edge, owner first. -/
def ends (e : Edge) : List Scalar :=
  [e.owner, e.referenced]

/-- An edge links its two tables in either order. -/
theorem links_comm (e : Edge) (a b : Scalar) : e.links a b = e.links b a := by
  rw [links, links, Bool.or_comm]

/-- The owner is linked to the referenced table alone, or to itself when the two are one. -/
theorem links_owner {e : Edge} {a : Scalar} (h : e.owner.sameName a = true) (b : Scalar) :
    e.links a b = e.referenced.sameName b := by
  rw [Bool.eq_iff_iff, links]
  simp only [Bool.or_eq_true, Bool.and_eq_true, Scalar.sameName_iff] at h ⊢
  refine ⟨?_, fun hb ↦ .inl ⟨h, hb⟩⟩
  rintro (⟨-, hb⟩ | ⟨hb, ha⟩)
  · exact hb
  · rw [ha, ← h, hb]

theorem links_referenced {e : Edge} {a : Scalar} (h : e.referenced.sameName a = true)
    (b : Scalar) : e.links a b = e.owner.sameName b := by
  rw [Bool.eq_iff_iff, links]
  simp only [Bool.or_eq_true, Bool.and_eq_true, Scalar.sameName_iff] at h ⊢
  refine ⟨?_, fun hb ↦ .inr ⟨hb, h⟩⟩
  rintro (⟨ha, hb⟩ | ⟨hb, -⟩)
  · rw [ha, ← h, hb]
  · exact hb

theorem links_of_no_end {e : Edge} {a : Scalar} (ho : e.owner.sameName a = false)
    (hr : e.referenced.sameName a = false) (b : Scalar) : e.links a b = false := by
  rw [links, ho, hr, Bool.false_and, Bool.and_false, Bool.or_false]

end Edge

namespace Adjacency

/-- The names of the neighbours that a table of neighbours has for a name. -/
def neighborNames (adjacency : Adjacency) (a : Scalar) : List Scalar :=
  ((NameTable.find? a adjacency).map NameTable.names).getD []

/-! ### One more edge -/

/-- The ends of one more edge become tables, owner first. -/
theorem names_link (adjacency : Adjacency) (e : Edge) :
    NameTable.names (adjacency.link e) =
      NameTable.addName e.referenced (NameTable.addName e.owner (NameTable.names adjacency)) := by
  simp only [link, NameTable.names_modify, NameTable.names_insertNew]

/-- One more edge adds the referenced table to the neighbours of its owner, then the owner to the
neighbours of its referenced table. -/
theorem neighborNames_link (adjacency : Adjacency) (e : Edge) (a : Scalar) :
    neighborNames (adjacency.link e) a =
      (if e.referenced.sameName a then NameTable.addName e.owner else id)
        ((if e.owner.sameName a then NameTable.addName e.referenced else id)
          (neighborNames adjacency a)) := by
  simp only [neighborNames, link, NameTable.find?_modify, NameTable.find?_insertNew]
  rcases NameTable.find? a adjacency with - | neighbours <;>
    by_cases ho : e.owner.sameName a = true <;>
    by_cases hr : e.referenced.sameName a = true <;>
    simp [ho, hr, NameTable.names_insertNew]

/-! ### All edges -/

/-- The last edge is linked last. -/
theorem ofEdges_concat (edges : List Edge) (e : Edge) :
    ofEdges (edges ++ [e]) = (ofEdges edges).link e := by
  rw [ofEdges, List.foldl_append, List.foldl_cons, List.foldl_nil, ofEdges]

/-- **Tables are listed as the ends of the edges bring them up.** -/
theorem names_listed (edges : List Edge) :
    ListedFrom Scalar.sameName (edges.flatMap Edge.ends) (NameTable.names (ofEdges edges)) := by
  induction edges using List.reverseRecOn with
  | nil => exact .nil _
  | append_singleton edges e ih =>
    rw [ofEdges_concat, names_link, List.flatMap_append]
    have h := (ih.add (x := e.owner) fun _ ↦ rfl).add (x := e.referenced) fun _ ↦ rfl
    rwa [List.append_assoc] at h

/-- **The neighbours of a table are listed as the edges that link it bring them up.** -/
theorem neighborNames_listed (edges : List Edge) (a : Scalar) :
    ListedFrom (fun e b ↦ e.links a b) edges (neighborNames (ofEdges edges) a) := by
  induction edges using List.reverseRecOn with
  | nil => exact .nil _
  | append_singleton edges e ih =>
    rw [ofEdges_concat, neighborNames_link]
    by_cases ho : e.owner.sameName a = true
    · rw [if_pos ho]
      have h := ih.add (e.links_owner ho)
      split
      · next hr =>
        -- an edge from the table to itself: its name has just been listed
        obtain ⟨n, hn, hsame⟩ : ∃ n ∈ NameTable.addName e.referenced _,
            n.sameName e.owner = true := (h.mem_iff e.owner).2
          ⟨e, by simp, by rw [e.links_owner ho, Scalar.sameName_iff, Scalar.sameName_iff.1 hr,
            Scalar.sameName_iff.1 ho]⟩
        rwa [NameTable.addName_of_known hn hsame]
      · exact h
    · rw [if_neg ho]
      split
      · next hr => exact ih.add (e.links_referenced hr)
      · next hr => exact ih.skip (e.links_of_no_end (by simpa using ho) (by simpa using hr))

end Adjacency

namespace Graph

/-- The graph says of every pair of tables and of every table what the declared edges say, whichever
way an edge points. For tables named by texts, the same name is the same text. -/
structure AnswersFor (g : Graph) (edges : List Edge) : Prop where
  edge?_eq : ∀ a b, g.edge? a b = edges.find? fun e ↦ e.links a b
  edge?_comm : ∀ a b, g.edge? a b = g.edge? b a
  mem_neighbors_iff : ∀ a b, (∃ n ∈ g.neighbors a, n.sameName b = true) ↔
    (g.edge? a b).isSome = true
  neighbors_distinct : ∀ a, (g.neighbors a).Pairwise fun b c ↦ b.sameName c = false
  neighbors_ordered : ∀ a, (g.neighbors a).Pairwise fun b c ↦
    edges.findIdx (fun e ↦ e.links a b) < edges.findIdx (fun e ↦ e.links a c)
  hasTable_iff : ∀ a, g.hasTable a = true ↔
    ∃ e ∈ edges, e.owner.sameName a = true ∨ e.referenced.sameName a = true
  mem_tables_iff : ∀ a, (∃ n ∈ g.tables, n.sameName a = true) ↔ g.hasTable a = true
  tables_distinct : g.tables.Pairwise fun a b ↦ a.sameName b = false
  tables_ordered : g.tables.Pairwise fun a b ↦
    (edges.flatMap Edge.ends).findIdx (fun n ↦ n.sameName a) <
      (edges.flatMap Edge.ends).findIdx (fun n ↦ n.sameName b)
  edges_eq : g.edges = edges
  size_eq : g.size = edges.length

/-- **A graph answers for its declarations**, parallel edges, opposite edges and edges from a table
to itself included. -/
theorem answersFor_ofEdges (edges : List Edge) : (ofEdges edges).AnswersFor edges := by
  have hedge : ∀ a b, (ofEdges edges).edge? a b = edges.find? fun e ↦ e.links a b :=
    (ofEdges edges).edge?_eq_find?
  have hneighbors : ∀ a, ListedFrom (fun e b ↦ e.links a b) edges ((ofEdges edges).neighbors a) :=
    Adjacency.neighborNames_listed edges
  have htables : ListedFrom Scalar.sameName (edges.flatMap Edge.ends) (ofEdges edges).tables :=
    Adjacency.names_listed edges
  have hhas : ∀ a, (∃ n ∈ (ofEdges edges).tables, n.sameName a = true) ↔
      (ofEdges edges).hasTable a = true := fun _ ↦ NameTable.isSome_find?_iff.symm
  -- each answer is the one of the three that fits, said of names
  exact {
    edge?_eq := hedge
    edge?_comm := fun a b ↦ by simp only [hedge, Edge.links_comm _ a b]
    mem_neighbors_iff := fun a b ↦ by rw [(hneighbors a).mem_iff, hedge, List.find?_isSome]
    neighbors_distinct := fun a ↦ (hneighbors a).distinct
    neighbors_ordered := fun a ↦ (hneighbors a).ordered
    hasTable_iff := fun a ↦ by
      rw [← hhas, htables.mem_iff]
      simp only [← List.any_eq_true, List.any_flatMap]
      simp [Edge.ends]
    mem_tables_iff := hhas
    tables_distinct := htables.distinct
    tables_ordered := htables.ordered
    edges_eq := rfl
    size_eq := rfl }

/-- Two tables that refer to each other, one of them also to itself. -/
example :
    let g := ofEdges [⟨.text "items", .text "brands", .text "brand_id", .text "id"⟩,
      ⟨.text "brands", .text "items", .text "item_id", .text "id"⟩,
      ⟨.text "items", .text "items", .text "parent_id", .text "id"⟩]
    g.tables = [.text "items", .text "brands"] ∧
      g.neighbors (.text "items") = [.text "brands", .text "items"] ∧ g.size = 3 := by
  decide

end Graph

end Relation

end ReportQuery
