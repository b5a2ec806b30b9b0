import ReportQuery.Catalog.Definition
import ReportQuery.Proofs.Catalog.Listing
import ReportQuery.Proofs.Except

/-!
# What a created catalog lists

A catalog is created from the definitions of its tables, one after the other. It holds one table for
each definition, in their order and under different names (`foldlM_create`), and the table lists the
foreign keys of its definition in the order that `TableDefinition.listing` spells out: first those
that are **found** in the definition as they are, then the others, the latest first. So the keys of
a table are in the order of declaration when its definition writes all of them out.

## Why the order matters

The order of the keys of a table is visible: it is the order in which the catalog lists its
relations, and of several edges between two tables the first one joins them. A key that the
declaration of a column makes, and a key that does not spell everything as the table does, are
listed behind the others, the latest first. A definition without such keys writes out all its keys
(`WritesOutKeys`), and they are listed in the order of declaration.

Names are compared without regard to case. So a key may name a column in another spelling, and it is
listed with the spelling of the table.
-/

namespace ReportQuery.Catalog

/-! ### The keys of a definition -/

/-- The key with its columns as a table with these columns spells them. -/
def ForeignKey.respelled (names : List String) (k : ForeignKey) : ForeignKey :=
  { k with columns := k.columns.map fun column ↦ (names.find? (sameName column)).getD column }

/-- The key says everything by plain names, and its columns are spelled as in the table. -/
def ForeignKey.isFoundIn (names : List String) (k : ForeignKey) : Bool :=
  k.isSpelledOut && k.columns.all (names.contains ·)

namespace TableDefinition

/-- The names of the columns. -/
def columnNames (d : TableDefinition) : List String :=
  d.columns.map (·.1)

/-- The keys that the declarations of the columns make. -/
def inlineKeys (d : TableDefinition) : List ForeignKey :=
  d.columns.flatMap fun (name, text) ↦
    ((Declaration.read? text).elim [] (·.clauses)).filterMap (·.foreignKey? name)

/-- The keys in the order in which a database lists them: those that it finds in the definition as
they are, and then the others, the latest first. -/
def listing (d : TableDefinition) : List ForeignKey :=
  d.foreignKeys.filter (·.isFoundIn d.columnNames) ++
    (d.inlineKeys ++ (d.foreignKeys.filter fun k ↦ !k.isFoundIn d.columnNames).map
      (·.respelled d.columnNames)).reverse

/-- The definition writes out all its keys. -/
def WritesOutKeys (d : TableDefinition) : Prop :=
  d.inlineKeys = [] ∧ ∀ k ∈ d.foreignKeys, k.isFoundIn d.columnNames = true

/-- Keys that are written out are listed in the order of declaration. -/
theorem WritesOutKeys.listing_eq {d : TableDefinition} (h : d.WritesOutKeys) :
    d.listing = d.foreignKeys := by
  obtain ⟨hinline, hfound⟩ := h
  have hothers : (d.foreignKeys.filter fun k ↦ !k.isFoundIn d.columnNames) = [] :=
    List.filter_eq_nil_iff.2 fun k hk ↦ by simp [hfound k hk]
  rw [listing, hinline, hothers, List.filter_eq_self.2 hfound]
  exact List.append_nil _

end TableDefinition

/-! ### Distinct names -/

/-- Without its repetitions a list has none. -/
theorem nodup_eraseDups (names : List String) : names.eraseDups.Nodup := by
  match names with
  | [] => exact List.nodup_nil
  | a :: as =>
    rw [List.eraseDups_cons, List.nodup_cons, List.mem_eraseDups]
    exact ⟨by simp, nodup_eraseDups _⟩
termination_by names.length
decreasing_by
  have := List.length_filter_le (fun b ↦ !b == a) as
  simp only [List.length_cons]
  omega

/-- A name among names that differ in more than case is found under its own spelling. -/
theorem find?_sameName_of_mem {names : List String} (hnames : (names.map String.toLower).Nodup)
    {name : String} (h : name ∈ names) : names.find? (sameName name) = some name := by
  induction names with
  | nil => cases h
  | cons first rest ih =>
    obtain ⟨hfirst, hrest⟩ := List.nodup_cons.1 hnames
    rcases List.mem_cons.1 h with rfl | h
    · simp [sameName]
    · have hne : sameName name first = false := by
        rw [sameName, decide_eq_false_iff_not]
        exact fun heq ↦ hfirst (heq ▸ List.mem_map_of_mem h)
      rw [List.find?_cons, hne]
      exact ih hrest h

/-! ### One table -/

namespace ForeignKey

variable {names : List String} {k spelled : ForeignKey}

/-- A key whose columns are all known gets their spelling. -/
theorem eq_respelled_of_spelledAs (h : k.spelledAs names = .ok spelled) :
    spelled = k.respelled names ∧ ∀ c ∈ k.columns, (names.find? (sameName c)).isSome = true := by
  obtain ⟨columns, hcolumns, h⟩ := bind_eq_ok_iff.1 h
  cases h
  have hall := forall₂_of_mapM_eq_ok hcolumns
  suffices columns = k.columns.map (fun c ↦ (names.find? (sameName c)).getD c) ∧
      ∀ c ∈ k.columns, (names.find? (sameName c)).isSome = true by
    exact ⟨by rw [respelled, this.1], this.2⟩
  clear hcolumns h
  generalize k.columns = cs at hall
  induction hall with
  | nil => simp
  | @cons c name cs rest hfirst _ ih =>
    rcases hfind : names.find? (sameName c) with - | found
    · simp [hfind] at hfirst
    · have hname : found = name := by simpa [hfind] using hfirst
      obtain ⟨hrest, hknown⟩ := ih
      refine ⟨by rw [List.map_cons, hfind, Option.getD_some, hname, hrest], ?_⟩
      exact List.forall_mem_cons.2 ⟨by rw [hfind, Option.isSome_some], hknown⟩

/-- Columns that are spelled as in the table are kept. -/
theorem respelled_eq_self (hnames : (names.map String.toLower).Nodup)
    (h : ∀ c ∈ k.columns, c ∈ names) : k.respelled names = k := by
  have hsame : k.columns.map (fun c ↦ (names.find? (sameName c)).getD c) = k.columns := by
    rw [List.map_congr_left (g := id), List.map_id]
    intro c hc
    rw [find?_sameName_of_mem hnames (h c hc)]
    rfl
  rw [respelled, hsame]

/-- A key is found exactly when it is spelled out and keeps its columns. -/
theorem isFoundIn_eq (hnames : (names.map String.toLower).Nodup)
    (hknown : ∀ c ∈ k.columns, (names.find? (sameName c)).isSome = true) :
    k.isFoundIn names = (k.isSpelledOut && k.columns = (k.respelled names).columns) := by
  suffices (∀ c ∈ k.columns, c ∈ names) ↔ k.columns = (k.respelled names).columns by
    rw [isFoundIn, Bool.eq_iff_iff]
    simp [this]
  constructor
  · intro h
    rw [respelled_eq_self hnames h]
  · intro h c hc
    obtain ⟨name, hname⟩ := Option.isSome_iff_exists.1 (hknown c hc)
    have hmap : k.columns.map (fun c ↦ (names.find? (sameName c)).getD c) = k.columns.map id :=
      h.symm.trans (List.map_id _).symm
    have hself := List.map_inj_left.1 hmap c hc
    rw [hname, Option.getD_some, id] at hself
    exact hself ▸ List.mem_of_find?_eq_some hname

/-- The columns of a key that is found are columns of the table. -/
theorem mem_of_isFoundIn (h : k.isFoundIn names = true) : ∀ c ∈ k.columns, c ∈ names := by
  simpa using (Bool.and_eq_true_iff.1 h).2

end ForeignKey

namespace TableDefinition

variable {d : TableDefinition} {t : Table} {columns : List (String × Declaration)}

/-- The declarations that are read belong to the columns of the definition, and the keys that they
make are its inline keys. -/
theorem of_declarations (h : d.declarations = .ok columns) :
    columns.map (·.1) = d.columnNames ∧
    (columns.flatMap fun (name, declaration) ↦
      declaration.clauses.filterMap (·.foreignKey? name)) = d.inlineKeys := by
  have hall := forall₂_of_mapM_eq_ok h
  rw [columnNames, inlineKeys]
  clear h
  generalize d.columns = written at hall
  induction hall with
  | nil => simp
  | @cons first read written columns hfirst _ ih =>
    obtain ⟨name, text⟩ := first
    rcases htext : Declaration.read? text with - | declaration
    · simp [htext] at hfirst
    · have hread : (name, declaration) = read := by
        simp only [htext] at hfirst
        rcases hfault : declaration.fault? name with - | e <;> rw [hfault] at hfirst
        · exact Except.ok.inj hfirst
        · cases hfirst
      obtain ⟨hnames, hkeys⟩ := ih
      rw [List.map_cons, List.map_cons, List.flatMap_cons, List.flatMap_cons, hnames, hkeys,
        ← hread]
      simp only [htext, Option.elim_some, and_self]

/-- Columns that are all right have names that differ in more than case. -/
theorem nodup_of_columnsFault? (h : columnsFault? columns = none) :
    ((columns.map (·.1)).map String.toLower).Nodup := by
  have hnames : (columns.map (·.1.toLower)).eraseDups = columns.map (·.1.toLower) := by
    by_contra hne
    rw [columnsFault?] at h
    split at h
    · cases h
    · cases h
  have hnodup := nodup_eraseDups (columns.map (·.1.toLower))
  rw [hnames] at hnodup
  rw [List.map_map]
  exact hnodup

/-- Keys whose columns are all known get their spelling. -/
theorem eq_map_respelled {names : List String} {keys spelled : List ForeignKey}
    (h : keys.mapM (·.spelledAs names) = .ok spelled) : spelled = keys.map (·.respelled names) ∧
      ∀ k ∈ keys, ∀ c ∈ k.columns, (names.find? (sameName c)).isSome = true := by
  have hall := forall₂_of_mapM_eq_ok h
  clear h
  induction hall with
  | nil => simp
  | cons hfirst _ ih =>
    obtain ⟨rfl, hknown⟩ := ForeignKey.eq_respelled_of_spelledAs hfirst
    exact ⟨by rw [List.map_cons, ← ih.1], List.forall_mem_cons.2 ⟨hknown, ih.2⟩⟩

/-- The keys of a definition that is accepted are listed found ones first. -/
theorem listedKeys_eq {names : List String} {keys listed : List ForeignKey}
    (h : listedKeys columns keys = .ok listed) (hcolumns : columns.map (·.1) = names)
    (hnames : (names.map String.toLower).Nodup) :
    listed = keys.filter (·.isFoundIn names) ++
      ((columns.flatMap fun (name, declaration) ↦
          declaration.clauses.filterMap (·.foreignKey? name)) ++
        (keys.filter fun k ↦ !k.isFoundIn names).map (·.respelled names)).reverse := by
  unfold listedKeys at h
  dsimp only at h
  split at h
  · cases h
  · obtain ⟨spelled, hspelled, h⟩ := bind_eq_ok_iff.1 h
    cases h
    rw [hcolumns] at hspelled
    obtain ⟨rfl, hknown⟩ := eq_map_respelled hspelled
    -- the two runs are told apart after the respelling and before it, with the same result
    have hfound : ∀ k ∈ keys, (k.isSpelledOut && k.columns = (k.respelled names).columns) =
        k.isFoundIn names :=
      fun k hk ↦ (ForeignKey.isFoundIn_eq hnames (hknown k hk)).symm
    have hkept : (keys.filter (·.isFoundIn names)).map (·.respelled names) =
        keys.filter (·.isFoundIn names) := by
      conv_rhs => rw [← List.map_id (keys.filter (·.isFoundIn names))]
      refine List.map_congr_left fun k hk ↦ ?_
      exact ForeignKey.respelled_eq_self hnames
        (ForeignKey.mem_of_isFoundIn (List.mem_filter.1 hk).2)
    rw [← List.map_prod_left_eq_zip, List.filter_map, List.filter_map, List.map_map, List.map_map]
    congr 1
    · exact (congrArg _ (List.filter_congr hfound)).trans hkept
    · congr 2
      exact congrArg _ (List.filter_congr fun k hk ↦ congrArg (!·) (hfound k hk))

/-- **A table has the name and the columns of its definition, and lists its keys.** -/
theorem table_eq_ok (h : d.table = .ok t) : t.name = d.name ∧
    t.columns.map (·.name) = d.columnNames ∧ t.foreignKeys = d.listing := by
  obtain ⟨columns, hdeclarations, h⟩ := bind_eq_ok_iff.1 h
  rcases hfault : columnsFault? columns with - | e
  · rw [hfault] at h
    obtain ⟨keys, hkeys, h⟩ := bind_eq_ok_iff.1 h
    cases h
    obtain ⟨hnames, hinline⟩ := of_declarations hdeclarations
    have hnodup := nodup_of_columnsFault? hfault
    rw [hnames] at hnodup
    refine ⟨rfl, ?_, ?_⟩
    · rw [← hnames, List.map_map]
      rfl
    · rw [listing, ← hinline]
      exact listedKeys_eq hkeys hnames hnodup
  · rw [hfault] at h
    cases h

end TableDefinition

/-! ### All tables -/

variable {c c' : Catalog} {d : TableDefinition}

/-- One definition adds its table, which is named like no table before it. -/
theorem create_eq_ok (h : c.create d = .ok c') : ∃ t, d.table = .ok t ∧
    c'.tables = c.tables ++ [t] ∧ ∀ s ∈ c.tables, s.name ≠ d.name := by
  unfold create at h
  split at h
  · cases h
  · split at h
    · cases h
    · split at h
      · cases h
      next hnew =>
        obtain ⟨t, ht, rfl⟩ := map_eq_ok_iff.1 h
        refine ⟨t, ht, rfl, fun s hs heq ↦ ?_⟩
        rw [find?, List.find?_isSome] at hnew
        exact hnew ⟨s, hs, by simp [sameName, heq]⟩

/-- Definitions that are accepted one after the other add a table each, and the names of the tables
stay different. -/
theorem foldlM_create {ds : List TableDefinition} (h : ds.foldlM create c = .ok c')
    (hnames : (c.tables.map (·.name)).Nodup) : (c'.tables.map (·.name)).Nodup ∧
      ∃ ts, c'.tables = c.tables ++ ts ∧ List.Forall₂ (fun d t ↦ d.table = .ok t) ds ts := by
  induction ds generalizing c with
  | nil =>
    cases h
    exact ⟨hnames, [], (List.append_nil _).symm, .nil⟩
  | cons d ds ih =>
    rw [List.foldlM_cons] at h
    obtain ⟨c₁, hfirst, hrest⟩ := bind_eq_ok_iff.1 h
    obtain ⟨t, ht, htables, hnew⟩ := create_eq_ok hfirst
    have hnames₁ : (c₁.tables.map (·.name)).Nodup := by
      rw [htables, List.map_append, List.map_singleton, List.nodup_append]
      refine ⟨hnames, by simp, fun a ha b hb ↦ ?_⟩
      obtain ⟨s, hs, rfl⟩ := List.mem_map.1 ha
      rw [List.mem_singleton.1 hb, (TableDefinition.table_eq_ok ht).1]
      exact hnew s hs
    obtain ⟨hnames', ts, hts, hall⟩ := ih hrest hnames₁
    exact ⟨hnames', t :: ts, by rw [hts, htables, List.append_assoc, List.singleton_append],
      .cons ht hall⟩

/-- **A database holds the tables of its definitions**, one for each, under different names. -/
theorem ofDefinitions_eq_ok {ds : List TableDefinition} (h : ofDefinitions ds = .ok c) :
    (c.tables.map (·.name)).Nodup ∧ List.Forall₂ (fun d t ↦ d.table = .ok t) ds c.tables := by
  obtain ⟨hnames, ts, hts, hall⟩ := foldlM_create h List.nodup_nil
  rw [hts]
  exact ⟨hts ▸ hnames, hall⟩

/-- Tables of different names are listed in the strict order of their names. -/
theorem pairwise_sorted_lt (h : (c.tables.map (·.name)).Nodup) :
    c.sorted.Pairwise fun s t ↦ s.name < t.name := by
  have hdistinct : c.sorted.Pairwise fun s t ↦ s.name ≠ t.name :=
    List.pairwise_map.1 ((c.sorted_perm.map Table.name).nodup_iff.2 h)
  exact (c.pairwise_sorted.and hdistinct).imp fun hst ↦ lt_of_le_of_ne hst.1 hst.2

end ReportQuery.Catalog
