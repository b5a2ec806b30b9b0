import ReportQuery.Proofs.JoinPlan.FromTables

/-!
# Tables at the end of a request

The record of a table is made from the tables in front of it and never from those behind it. So a
pass over `ts ++ us` first makes the records of `ts`, and then goes on with `us` from the tables
that are included by then (`placements_append`). What `ts` alone has as its plan, with the reasons
for which tables are skipped, stands at the front of the plan for both (`resolve?_append`).

A table at the end that is in FROM already, and has no complete ON condition, leaves FROM as it is
and is recorded as a duplicate (`placements_of_included`). The pass asks the list that it carries
and not the plan, so this needs the agreement of the two after a whole pass
(`agrees_includedAfter`), which single placements are known to keep.

The list of included tables is the only thing that the pass carries from one entry to the next. So
`includedAfter` is all that has to be known of the first part of a request to place the second part,
and two requests with the same included tables at some point go on alike from there.
-/

namespace ReportQuery.JoinPlan

open ReportQuery.Relation

variable {g : Graph} {default : JoinType}

/-! ### A pass in two parts -/

/-- The tables included after a list of records. -/
def includedAfter (included : List String) (records : List Placement) : List String :=
  records.foldl (fun included p ↦ p.extend included) included

@[simp] theorem includedAfter_nil (included : List String) : includedAfter included [] = included :=
  rfl

/-- The first record extends the included tables, and the others go on from there. -/
theorem includedAfter_cons (included : List String) (p : Placement) (records : List Placement) :
    includedAfter included (p :: records) = includedAfter (p.extend included) records :=
  rfl

/-- **The second part of a pass goes on from what the first part has included.** -/
theorem placements_append (included : List String) (ts us : List TableSource) :
    placements g default included (ts ++ us) = placements g default included ts ++
      placements g default (includedAfter included (placements g default included ts)) us := by
  induction ts generalizing included with
  | nil => rfl
  | cons t ts ih =>
    rw [List.cons_append, placements, placements, includedAfter_cons, ih]
    rfl

/-- **A list of records keeps the agreement** of the included tables with FROM. -/
theorem agrees_includedAfter {included tables : List String} (h : Agrees included tables)
    (records : List Placement) : Agrees (includedAfter included records)
      (tables ++ (records.filterMap Placement.step?).map (·.table)) := by
  induction records generalizing included tables with
  | nil => simpa using h
  | cons p records ih =>
    have hnext := ih (h.extend p)
    have htables : tables ++ ((p :: records).filterMap Placement.step?).map (·.table) =
        tables ++ (p.step?.map (·.table)).toList ++
          (records.filterMap Placement.step?).map (·.table) := by
      rcases p with step | s <;> simp [List.filterMap_cons, Placement.step?]
    rw [includedAfter_cons, htables]
    exact hnext

/-- What a pass has included is what stands in FROM of its plan. -/
theorem mem_includedAfter_iff {base name : String} {ts : List TableSource} :
    name ∈ includedAfter [base] (placements g default [base] ts) ↔
      name ∈ (ofBase g default base ts).included :=
  (agrees_includedAfter (.refl [base]) _).mem_iff name

/-! ### Tables that are in FROM already -/

/-- A table that is included and has no condition of its own is a duplicate. -/
theorem place_of_included {included : List String} {u : TableSource}
    (hsides : u.explicitSides? = none) (hmem : u.name ∈ included) :
    place g default included u = .skipped ⟨u.name, .duplicate⟩ := by
  simp only [place, hsides, if_pos hmem]

/-- **Tables that are included already are recorded as duplicates**, one by one. -/
theorem placements_of_included {included : List String} {us : List TableSource}
    (h : ∀ u ∈ us, u.name ∈ included ∧ u.explicitSides? = none) :
    placements g default included us =
      (us.map (·.name)).map fun name ↦ .skipped ⟨name, .duplicate⟩ := by
  induction us with
  | nil => rfl
  | cons u us ih =>
    obtain ⟨⟨hmem, hsides⟩, hrest⟩ := List.forall_mem_cons.1 h
    -- a duplicate leaves the included tables as they are, so the others still find theirs
    rw [placements, place_of_included hsides hmem, List.map_cons, List.map_cons]
    exact congrArg _ (ih hrest)

/-! ### The plan of a longer request -/

/-- The plan with more records behind those that it was made of. -/
def continued (p : JoinPlan) (records : List Placement) : JoinPlan where
  base := p.base
  joins := p.joins ++ records.filterMap Placement.step?
  skipped := p.skipped ++ records.filterMap Placement.skipped?

/-- The plan of a longer list continues the plan of the shorter one from the tables that it
includes. -/
theorem ofBase_append (base : String) (ts us : List TableSource) :
    ofBase g default base (ts ++ us) = (ofBase g default base ts).continued
      (placements g default (includedAfter [base] (placements g default [base] ts)) us) := by
  simp only [ofBase, continued, placements_append, List.filterMap_append]

/-- Records of duplicates add no joins. -/
theorem continued_duplicates (p : JoinPlan) (names : List String) :
    p.continued (names.map fun name ↦ .skipped ⟨name, .duplicate⟩) =
      { p with skipped := p.skipped ++ names.map fun name ↦ ⟨name, .duplicate⟩ } := by
  have hjoins : (names.map fun name ↦ Placement.skipped ⟨name, .duplicate⟩).filterMap
      Placement.step? = [] := by
    rw [List.filterMap_map]
    exact List.filterMap_eq_nil_iff.2 fun _ _ ↦ rfl
  have hskipped : (names.map fun name ↦ Placement.skipped ⟨name, .duplicate⟩).filterMap
      Placement.skipped? = names.map fun name ↦ ⟨name, .duplicate⟩ := by
    rw [List.filterMap_map]
    exact congrFun List.filterMap_eq_map names
  rw [continued, hjoins, hskipped, List.append_nil]

/-- **Tables at the end of a request change nothing in front of them.** The base is the same, and
the joins and the skipped tables, with their reasons, are those of the shorter request with more
behind them. If all the tables at the end are in FROM of the shorter request, and none has a
complete ON condition, then no join is added, and each of them is skipped as a duplicate. -/
theorem resolve?_append (g : Graph) (default : JoinType) (ts us : List TableSource)
    (hne : ts ≠ []) :
    ∃ p q : JoinPlan, resolve? g default ts = some p ∧ resolve? g default (ts ++ us) = some q ∧
      q.base = p.base ∧ p.joins <+: q.joins ∧ p.skipped <+: q.skipped ∧
      ((∀ u ∈ us, u.name ∈ p.included ∧ u.explicitSides? = none) →
        q.joins = p.joins ∧ q.skipped = p.skipped ++ us.map fun u ↦ ⟨u.name, .duplicate⟩) := by
  obtain ⟨t, ts, rfl⟩ := List.exists_cons_of_ne_nil hne
  refine ⟨ofBase g default t.name ts, ofBase g default t.name (ts ++ us), rfl, rfl, ?_⟩
  rw [ofBase_append]
  refine ⟨rfl, List.prefix_append _ _, List.prefix_append _ _, fun hincluded ↦ ?_⟩
  rw [placements_of_included fun u hu ↦ (hincluded u hu).imp_left mem_includedAfter_iff.2,
    continued_duplicates, List.map_map]
  exact ⟨rfl, rfl⟩

/-- One table is skipped since no edge links it, and two are asked for a second time. -/
theorem resolve?_sales_append : ∃ p q : JoinPlan,
    resolve? (.ofEdges [storeKey]) .left
      [{ name := "stores" }, { name := "brands" }, { name := "sales" }] = some p ∧
    resolve? (.ofEdges [storeKey]) .left [{ name := "stores" }, { name := "brands" },
      { name := "sales" }, { name := "sales", on := some {} }, { name := "stores" }] = some q ∧
    p.skipped = [⟨"brands", .unrelated ["stores"]⟩] ∧ q.joins = p.joins ∧
    q.skipped = p.skipped ++ [⟨"sales", .duplicate⟩, ⟨"stores", .duplicate⟩] := by
  obtain ⟨p, q, hp, hq, -, -, -, hduplicates⟩ := resolve?_append (.ofEdges [storeKey]) .left
    [{ name := "stores" }, { name := "brands" }, { name := "sales" }]
    [{ name := "sales", on := some {} }, { name := "stores" }] (List.cons_ne_nil _ _)
  have hplan : resolve? (.ofEdges [storeKey]) .left
      [{ name := "stores" }, { name := "brands" }, { name := "sales" }] = some {
        base := "stores"
        joins := [⟨"sales", "sales.store_id", "stores.id", .left, false⟩]
        skipped := [⟨"brands", .unrelated ["stores"]⟩] } := by
    rfl
  obtain rfl := Option.some.inj (hp.symm.trans hplan)
  exact ⟨_, q, hp, hq, rfl, hduplicates (by decide)⟩

end ReportQuery.JoinPlan
