import ReportQuery.Proofs.Except
import ReportQuery.Relation.Loading

/-!
# Edges before their tables are named

Files and catalogs give edges whose tables may be any values. Reading them takes all or nothing,
twice: each element of a list has to have the fields of an edge (`readEdges_eq_ok_iff`), and then
each table of each edge has to be a scalar, which is what a graph can be made of
(`ofRaw_eq_ok_iff`). Nothing but the second can go wrong once the edges are there, and where it does
no single edge is to blame: the error is the same whichever table has no name
(`ofRaw_eq_error_iff`).

Both readings are stated as equivalences, for success and for failure. The forms of an edge are
given without the reader (`RawEdge.Gives`, `RawEdge.IsNamed`), so what is refused is described by
what the element is, and not by what the reader does with it.
-/

namespace ReportQuery

namespace Relation

/-! ### Elements and edges -/

/-- The fields are those of the edge: its two tables, its column, perhaps its key, which is `id`
otherwise, and none that edges do not have. -/
structure RawEdge.IsIn (e : RawEdge) (fields : Record) : Prop where
  known : ∀ f ∈ fields, f.1 ∈ edgeFields
  owner : fields.lookup "owner_table" = some e.owner
  referenced : fields.lookup "referenced_table" = some e.referenced
  column : fields.lookup "fk_column" = some e.column
  key : (fields.lookup "referenced_key").getD (.text "id") = e.key

/-- The value is a record with the fields of the edge. -/
def Gives (v : Value) (e : RawEdge) : Prop :=
  ∃ fields, v = .record fields ∧ e.IsIn fields

/-- An edge is read exactly from a record that gives it. -/
theorem RawEdge.ofValue_eq_ok_iff {v : Value} {e : RawEdge} : ofValue v = .ok e ↔ Gives v e := by
  constructor
  · intro h
    unfold ofValue at h
    split at h
    next fields =>
      split at h
      · cases h
      next hknown =>
        split at h
        next owner referenced column howner hreferenced hcolumn =>
          cases h
          have hknown : ∀ f ∈ fields, f.1 ∈ edgeFields := by simpa using hknown
          exact ⟨fields, rfl, hknown, howner, hreferenced, hcolumn, rfl⟩
        · cases h
    · cases h
  · rintro ⟨fields, rfl, h⟩
    have hknown : fields.find? (fun f ↦ f.1 ∉ edgeFields) = none := by
      simpa using h.known
    simp only [ofValue, hknown, h.owner, h.referenced, h.column, h.key]

variable {path : String} {vs : List Value} {raws : List RawEdge} {g : Graph} {e : LoadError}

/-- All elements are edges, or there is no list of edges. -/
theorem readEdges_eq_ok_iff : readEdges path vs = .ok raws ↔ List.Forall₂ Gives vs raws := by
  induction vs generalizing raws with
  | nil =>
    rw [readEdges, Except.ok.injEq, List.forall₂_nil_left_iff]
    exact eq_comm
  | cons v vs ih =>
    rw [readEdges, List.forall₂_cons_left_iff]
    split
    next fault hv =>
      refine iff_of_false (by simp) ?_
      rintro ⟨r, _, hr, -⟩
      rw [RawEdge.ofValue_eq_ok_iff.2 hr] at hv
      cases hv
    next r hr =>
      simp only [map_eq_ok_iff, ih, ← RawEdge.ofValue_eq_ok_iff, hr, Except.ok.injEq]
      constructor
      · rintro ⟨rest, hrest, rfl⟩
        exact ⟨r, rest, rfl, hrest, rfl⟩
      · rintro ⟨_, rest, rfl, hrest, rfl⟩
        exact ⟨rest, hrest, rfl⟩

/-- What prevents reading edges is told with the edge that it is found in. -/
theorem readEdges_eq_error (h : readEdges path vs = .error e) :
    ∃ raw fault, e = .invalidEdge raw path fault := by
  induction vs with
  | nil => cases h
  | cons v vs ih =>
    rw [readEdges] at h
    split at h
    · cases h
      exact ⟨_, _, rfl⟩
    · rcases hrest : readEdges path vs with e' | rest
      · rw [hrest] at h
        cases h
        exact ih hrest
      · rw [hrest] at h
        cases h

/-! ### Names of tables -/

/-- Both tables of the edge are named by scalars. -/
def RawEdge.IsNamed (r : RawEdge) : Prop :=
  (Scalar.ofValue? r.owner).isSome = true ∧ (Scalar.ofValue? r.referenced).isSome = true

theorem RawEdge.isSome_named?_iff {r : RawEdge} : r.named?.isSome = true ↔ r.IsNamed := by
  rw [IsNamed, named?]
  cases Scalar.ofValue? r.owner <;> cases Scalar.ofValue? r.referenced <;> simp

/-- Edges have names throughout exactly when they come from named edges. -/
theorem mapM_named?_eq_some_iff {es : List Edge} :
    raws.mapM RawEdge.named? = some es ↔ raws = es.map Edge.raw := by
  constructor
  · intro h
    induction raws generalizing es with
    | nil =>
      cases h
      rfl
    | cons r raws ih =>
      simp only [List.mapM_cons, Option.bind_eq_bind, Option.bind_eq_some_iff, Option.pure_def,
        Option.some.injEq] at h
      obtain ⟨e, he, rest, hrest, rfl⟩ := h
      rw [RawEdge.eq_raw_of_named? he, ih hrest, List.map_cons]
  · rintro rfl
    have hraw : RawEdge.named? ∘ Edge.raw = fun e ↦ pure e := funext Edge.named?_raw
    rw [List.mapM_map, hraw, List.mapM_pure]
    exact congrArg some (List.map_id es)

theorem mapM_named?_eq_none_iff :
    raws.mapM RawEdge.named? = none ↔ ∃ r ∈ raws, ¬ r.IsNamed := by
  induction raws with
  | nil => simp
  | cons r raws ih =>
    rw [List.exists_mem_cons_iff, ← ih, ← RawEdge.isSome_named?_iff, List.mapM_cons]
    cases r.named? with
    | none => simp
    | some e => cases raws.mapM RawEdge.named? <;> simp

/-- A graph is made of edges whose tables have names, and of no others. -/
theorem ofRaw_eq_ok_iff : Graph.ofRaw raws = .ok g ↔ raws = g.edges.map Edge.raw := by
  rw [← mapM_named?_eq_some_iff, Graph.ofRaw]
  cases raws.mapM RawEdge.named? with
  | none => simp
  | some es =>
    rw [Except.ok.injEq, Option.some.injEq]
    constructor
    · rintro rfl
      rfl
    · rintro rfl
      exact g.ofEdges_edges

/-- A graph is refused exactly when an edge has no name for one of its tables. -/
theorem ofRaw_eq_error_iff :
    Graph.ofRaw raws = .error e ↔ e = .tableNotNamed ∧ ∃ r ∈ raws, ¬ r.IsNamed := by
  rw [← mapM_named?_eq_none_iff, Graph.ofRaw]
  cases raws.mapM RawEdge.named? with
  | none => simp [eq_comm]
  | some es => simp

end Relation

end ReportQuery
