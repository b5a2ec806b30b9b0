import ReportQuery.JoinPlan
import ReportQuery.Proofs.Relation.Lookup

/-!
# Where each requested table goes

A join plan is built in one pass that carries a list of included tables. What a reader of the
plan has instead is FROM: the base table and the tables of the steps so far, with repetitions
when an explicit condition joins a table again. This file says what becomes of every requested
table in terms of FROM and of the **declared** edges alone (`Placement.FollowsDeclaration`), and
that every plan has this form (`resolve?_follows_declaration`).

Two facts carry the proof:

* the list that the pass carries and FROM hold the same tables, and a search from the front
  finds the same in both (`Agrees`, preserved by every placement in `Agrees.extend`);
* the graph answers with the first declared edge between two tables
  (`Relation.Graph.edge?_text_eq_some_iff`).

The first is an invariant of the pass and says nothing about edges; the second is a law of the
graph and says nothing about the pass. They meet in one placement (`place_follows_declaration`).
-/

namespace ReportQuery.JoinPlan

open ReportQuery.Relation

/-! ### FROM and the edge that joins a table -/

/-- The tables in FROM when some placements are made: the base, then the table of each step. -/
def fromTables (base : String) (ps : List Placement) : List String :=
  base :: (ps.filterMap Placement.step?).map (·.table)

/-- The edge `e` joins `table` to `anchor`: the **first** declared edge between the two, where
`anchor` is the **earliest** table of FROM that has such an edge. -/
structure JoinedBy (edges : List Edge) (tables : List String) (table anchor : String)
    (e : Edge) : Prop where
  relates : e.Relates anchor table
  first : ∃ before after, edges = before ++ e :: after ∧ ∀ e' ∈ before, ¬ e'.Relates anchor table
  earliest : ∃ before after, tables = before ++ anchor :: after ∧
    ∀ a ∈ before, ∀ e' ∈ edges, ¬ e'.Relates a table

/-- The table that a placement is about. -/
def Placement.table : Placement → String
  | .joined step => step.table
  | .skipped s => s.table

/-- What a placement of `t` says, given the declared edges and the tables in FROM before it. -/
structure Placement.FollowsDeclaration (edges : List Edge) (default : JoinType)
    (tables : List String) (t : TableSource) (p : Placement) : Prop where
  /-- The record is about the entry. -/
  table_eq : p.table = t.name
  /-- A step has the entry's own join type, or else the default. -/
  joinType_eq : ∀ step, p = .joined step → step.joinType = t.joinType.getD default
  /-- A complete ON condition is used as it is. -/
  explicit_eq : ∀ left right, t.explicitSides? = some (left, right) →
    p = .joined ⟨t.name, left, right, t.joinType.getD default, true⟩
  /-- Without one, a table counts as duplicate exactly when it is in FROM. -/
  duplicate_iff : p = .skipped ⟨t.name, .duplicate⟩ ↔
    t.explicitSides? = none ∧ t.name ∈ tables
  /-- And as unrelated exactly when it is not, and no declared edge links it to FROM. -/
  unrelated_iff : (∃ included, p = .skipped ⟨t.name, .unrelated included⟩) ↔
    t.explicitSides? = none ∧ t.name ∉ tables ∧ ∀ a ∈ tables, ∀ e ∈ edges, ¬ e.Relates a t.name
  /-- Every other table is joined by the first edge to the earliest table that has one. -/
  inferred_eq : t.explicitSides? = none → t.name ∉ tables →
    (∃ a ∈ tables, ∃ e ∈ edges, e.Relates a t.name) →
    ∃ anchor e, JoinedBy edges tables t.name anchor e ∧
      p = .joined ⟨t.name, e.ownerSide, e.referencedSide, t.joinType.getD default, false⟩
  /-- An inferred condition names the new table and one table that was in FROM already. -/
  inferred_sides : ∀ step, p = .joined step → step.explicit = false →
    t.name ∉ tables ∧ ∃ anchor ∈ tables, ∃ column key : String,
      (step.left = anchor ++ "." ++ column ∧ step.right = t.name ++ "." ++ key) ∨
      (step.left = t.name ++ "." ++ column ∧ step.right = anchor ++ "." ++ key)

/-! ### The list that the pass carries -/

/-- The included tables stand for FROM: the same tables, found in the same order. -/
structure Agrees (included tables : List String) : Prop where
  mem_iff : ∀ a, a ∈ included ↔ a ∈ tables
  findSome?_eq : ∀ f : String → Option Edge, included.findSome? f = tables.findSome? f

theorem Agrees.refl (tables : List String) : Agrees tables tables :=
  ⟨fun _ ↦ Iff.rfl, fun _ ↦ rfl⟩

/-- The last record adds the table that it joins, if it joins one. -/
theorem fromTables_concat (base : String) (ps : List Placement) (p : Placement) :
    fromTables base (ps ++ [p]) = fromTables base ps ++ (p.step?.map (·.table)).toList := by
  cases p <;> simp [fromTables, Placement.step?]

/-- **One placement keeps the agreement.** A table that is joined again is not carried twice;
in FROM it stands twice, and the second time a search does not reach it. -/
theorem Agrees.extend {included tables : List String} (h : Agrees included tables)
    (p : Placement) : Agrees (p.extend included) (tables ++ (p.step?.map (·.table)).toList) := by
  cases p with
  | skipped s => simpa [Placement.extend, Placement.step?] using h
  | joined step =>
    simp only [Placement.extend, Placement.step?, Option.map_some, Option.toList_some]
    by_cases hmem : step.table ∈ included
    · -- FROM names the table a second time, where a search finds what it found before
      have htables : step.table ∈ tables := (h.mem_iff _).1 hmem
      rw [if_pos hmem]
      refine ⟨fun a ↦ ?_, fun f ↦ ?_⟩
      · rw [h.mem_iff, List.mem_append, List.mem_singleton]
        exact ⟨Or.inl, fun ha ↦ ha.elim id fun heq ↦ heq ▸ htables⟩
      · rw [h.findSome?_eq, List.findSome?_append]
        rcases hf : tables.findSome? f with - | e
        · have hnone : f step.table = none := List.findSome?_eq_none_iff.1 hf _ htables
          simp [hnone]
        · rfl
    · rw [if_neg hmem]
      refine ⟨fun a ↦ ?_, fun f ↦ ?_⟩
      · rw [List.mem_append, List.mem_append, h.mem_iff]
      · rw [List.findSome?_append, List.findSome?_append, h.findSome?_eq]

/-! ### One placement -/

/-- A search that finds an edge finds the one that joins the table. -/
theorem joinedBy_of_findEdge {g : Graph} {tables : List String} {table : String} {e : Edge}
    (h : findEdge g tables table = some e) :
    ∃ anchor, JoinedBy g.edges tables table anchor e := by
  obtain ⟨before, anchor, after, htables, hedge, hbefore⟩ := List.findSome?_eq_some_iff.1 h
  obtain ⟨hrelates, hfirst⟩ := Graph.edge?_text_eq_some_iff.1 hedge
  exact ⟨anchor, hrelates, hfirst, before, after, htables, fun a ha ↦
    Graph.edge?_text_eq_none_iff.1 (hbefore a ha)⟩

/-- A search that finds nothing has seen that no declared edge links the table to FROM. -/
theorem findEdge_eq_none_iff {g : Graph} {tables : List String} {table : String} :
    findEdge g tables table = none ↔ ∀ a ∈ tables, ∀ e ∈ g.edges, ¬ e.Relates a table := by
  rw [findEdge, List.findSome?_eq_none_iff]
  exact forall₂_congr fun a _ ↦ Graph.edge?_text_eq_none_iff

/-- The sides of a relating edge name its two tables. -/
theorem sides_of_relates {e : Edge} {anchor table : String} (h : e.Relates anchor table) :
    ∃ column key : String,
      (e.ownerSide = anchor ++ "." ++ column ∧ e.referencedSide = table ++ "." ++ key) ∨
      (e.ownerSide = table ++ "." ++ column ∧ e.referencedSide = anchor ++ "." ++ key) := by
  refine ⟨e.column.display, e.key.display, ?_⟩
  rcases h with ⟨howner, hreferenced⟩ | ⟨howner, hreferenced⟩
  · left
    rw [Edge.ownerSide, Edge.referencedSide, howner, hreferenced]
    exact ⟨rfl, rfl⟩
  · right
    rw [Edge.ownerSide, Edge.referencedSide, howner, hreferenced]
    exact ⟨rfl, rfl⟩

/-- **One placement follows the declaration.** -/
theorem place_follows_declaration (g : Graph) (default : JoinType) {included tables : List String}
    (h : Agrees included tables) (t : TableSource) :
    (place g default included t).FollowsDeclaration g.edges default tables t := by
  rcases hsides : t.explicitSides? with - | ⟨left, right⟩
  · by_cases hmem : t.name ∈ tables
    · have hplace : place g default included t = .skipped ⟨t.name, .duplicate⟩ := by
        simp only [place, hsides, if_pos ((h.mem_iff _).2 hmem)]
      rw [hplace]
      constructor <;> simp [Placement.table, hsides, hmem]
    · have hincluded : t.name ∉ included := fun hin ↦ hmem ((h.mem_iff _).1 hin)
      -- what the pass finds in its own list is what FROM has first
      have hsearch : findEdge g included t.name = findEdge g tables t.name :=
        h.findSome?_eq _
      rcases hfind : findEdge g tables t.name with - | e
      · have hplace : place g default included t = .skipped ⟨t.name, .unrelated included⟩ := by
          simp only [place, hsides, if_neg hincluded, hsearch, hfind]
        have hnone := findEdge_eq_none_iff.1 hfind
        rw [hplace]
        constructor <;> simp_all [Placement.table]
      · have hplace : place g default included t =
            .joined ⟨t.name, e.ownerSide, e.referencedSide, t.joinType.getD default, false⟩ := by
          simp only [place, hsides, if_neg hincluded, hsearch, hfind]
        obtain ⟨anchor, hjoined⟩ := joinedBy_of_findEdge hfind
        obtain ⟨before, after, htables, -⟩ := hjoined.earliest
        obtain ⟨_, _, hedges, -⟩ := hjoined.first
        have hanchor : anchor ∈ tables := by simp [htables]
        have hdeclared : e ∈ g.edges := by simp [hedges]
        rw [hplace]
        constructor
        case unrelated_iff =>
          refine ⟨fun ⟨_, heq⟩ ↦ by simp at heq, fun ⟨_, _, hnone⟩ ↦ ?_⟩
          exact absurd hjoined.relates (hnone anchor hanchor e hdeclared)
        case inferred_eq => exact fun _ _ _ ↦ ⟨anchor, e, hjoined, rfl⟩
        case inferred_sides =>
          rintro step heq -
          obtain ⟨column, key, hside⟩ := sides_of_relates hjoined.relates
          cases heq
          exact ⟨hmem, anchor, hanchor, column, key, hside⟩
        all_goals simp [Placement.table, hsides, hmem]
  · have hplace : place g default included t =
        .joined ⟨t.name, left, right, t.joinType.getD default, true⟩ := by
      simp only [place, hsides]
    rw [hplace]
    constructor <;> simp [Placement.table, hsides]

/-! ### The whole pass -/

/-- Each entry has its record. -/
theorem length_placements (g : Graph) (default : JoinType) (included : List String)
    (ts : List TableSource) : (placements g default included ts).length = ts.length := by
  induction ts generalizing included with
  | nil => rfl
  | cons t ts ih => rw [placements, List.length_cons, List.length_cons, ih]

/-- **Every placement of a pass follows the declaration**, from any point of the pass on: the
tables in FROM before it are those of the placements `done` and of the ones in front of it. -/
theorem placements_follow_declaration (g : Graph) (default : JoinType) (base : String)
    (ts : List TableSource) {included : List String} {done : List Placement}
    (h : Agrees included (fromTables base done)) (i : Nat) (hi : i < ts.length) :
    ∃ p, (placements g default included ts)[i]? = some p ∧
      p.FollowsDeclaration g.edges default
        (fromTables base (done ++ (placements g default included ts).take i)) ts[i] := by
  -- the entry in question comes nearer, and what is placed on the way joins `done`
  induction ts generalizing included done i with
  | nil => simp at hi
  | cons t ts ih =>
    let p := place g default included t
    have hpass : placements g default included (t :: ts) =
        p :: placements g default (p.extend included) ts := rfl
    rw [hpass]
    cases i with
    | zero =>
      refine ⟨p, rfl, ?_⟩
      simpa using place_follows_declaration g default h t
    | succ i =>
      have hnext : Agrees (p.extend included) (fromTables base (done ++ [p])) := by
        rw [fromTables_concat]
        exact h.extend p
      obtain ⟨q, hq, hfollows⟩ := ih hnext i (by simpa using hi)
      refine ⟨q, by simpa using hq, ?_⟩
      simpa using hfollows

/-! ### Where the texts of a plan come from -/

theorem exists_place_of_mem_placements {g : Graph} {default : JoinType} {included : List String}
    {ts : List TableSource} {p : Placement} (h : p ∈ placements g default included ts) :
    ∃ t ∈ ts, ∃ before, p = place g default before t := by
  induction ts generalizing included with
  | nil => cases h
  | cons t ts ih =>
    rcases List.mem_cons.1 h with rfl | h
    · exact ⟨t, by simp, included, rfl⟩
    · obtain ⟨t', ht', before, hp⟩ := ih h
      exact ⟨t', List.mem_cons_of_mem _ ht', before, hp⟩

/-- A step joins its entry's table, by the sides of the entry or by those of an edge. -/
theorem sides_of_place {g : Graph} {default : JoinType} {included : List String} {t : TableSource}
    {step : JoinStep} (h : place g default included t = .joined step) :
    step.table = t.name ∧ (t.explicitSides? = some (step.left, step.right) ∨
      ∃ e ∈ g.edges, step.left = e.ownerSide ∧ step.right = e.referencedSide) := by
  rw [place] at h
  split at h
  · next left right hsides =>
    cases h
    exact ⟨rfl, .inl hsides⟩
  · split at h
    · cases h
    · split at h
      · next e hfind =>
        cases h
        obtain ⟨anchor, hjoined⟩ := joinedBy_of_findEdge hfind
        obtain ⟨_, _, hedges, -⟩ := hjoined.first
        exact ⟨rfl, .inr ⟨e, by simp [hedges], rfl, rfl⟩⟩
      · cases h

/-- The base and the steps of a plan are made from the requested tables and from the edges. -/
theorem sources_of_resolve? {g : Graph} {default : JoinType} {ts : List TableSource}
    {plan : JoinPlan} (h : resolve? g default ts = some plan) :
    (∃ t ∈ ts, plan.base = t.name) ∧ ∀ step ∈ plan.joins, ∃ t ∈ ts, step.table = t.name ∧
      (t.explicitSides? = some (step.left, step.right) ∨
        ∃ e ∈ g.edges, step.left = e.ownerSide ∧ step.right = e.referencedSide) := by
  cases ts with
  | nil => cases h
  | cons first rest =>
    cases h
    refine ⟨⟨first, by simp, rfl⟩, fun step hstep ↦ ?_⟩
    obtain ⟨p, hp, hstep⟩ := List.mem_filterMap.1 hstep
    obtain ⟨t, ht, before, rfl⟩ := exists_place_of_mem_placements hp
    rcases hplace : place g default before t with s | s
    · rw [hplace] at hstep
      cases hstep
      exact ⟨t, List.mem_cons_of_mem _ ht, sides_of_place hplace⟩
    · rw [hplace] at hstep
      cases hstep

/-! ### Whole plans -/

/-- **A join plan follows the declared edges.** The first table is the base. Every later entry has
exactly one record, the joins and the skipped tables are these records in the order of the
request, and each says what the declared edges and the tables in FROM before it demand. -/
theorem resolve?_follows_declaration (edges : List Edge) (default : JoinType)
    (first : TableSource) (rest : List TableSource) :
    ∃ (plan : JoinPlan) (records : List Placement),
      resolve? (.ofEdges edges) default (first :: rest) = some plan ∧
      plan.base = first.name ∧ records.length = rest.length ∧
      plan.joins = records.filterMap Placement.step? ∧
      plan.skipped = records.filterMap Placement.skipped? ∧
      ∀ i (hi : i < rest.length), ∃ p : Placement, records[i]? = some p ∧
        p.FollowsDeclaration edges default (fromTables first.name (records.take i)) rest[i] := by
  refine ⟨_, placements (.ofEdges edges) default [first.name] rest, rfl, rfl,
    length_placements _ _ _ _, rfl, rfl, fun i hi ↦ ?_⟩
  have hbase : Agrees [first.name] (fromTables first.name []) := Agrees.refl _
  simpa using placements_follow_declaration (.ofEdges edges) default first.name rest hbase i hi

/-- The key of sales that refers to stores. -/
def storeKey : Edge where
  owner := .text "sales"
  referenced := .text "stores"
  column := .text "store_id"

/-- A request names stores, then brands, to which no edge leads, then sales, whose key refers to
stores: the third table is placed with only the first in FROM. -/
theorem resolve?_sales_follows_declaration :
    ∃ (plan : JoinPlan) (records : List Placement) (p : Placement),
      resolve? (.ofEdges [storeKey]) .left
        [{ name := "stores" }, { name := "brands" }, { name := "sales" }] = some plan ∧
      plan.joins = records.filterMap Placement.step? ∧ records[1]? = some p ∧
      p.FollowsDeclaration [storeKey] .left (fromTables "stores" (records.take 1))
        { name := "sales" } := by
  obtain ⟨plan, records, hplan, -, -, hjoins, -, hrecords⟩ :=
    resolve?_follows_declaration [storeKey] .left { name := "stores" }
      [{ name := "brands" }, { name := "sales" }]
  obtain ⟨p, hp, hfollows⟩ := hrecords 1 (by decide)
  exact ⟨plan, records, p, hplan, hjoins, hp, hfollows⟩

end ReportQuery.JoinPlan
