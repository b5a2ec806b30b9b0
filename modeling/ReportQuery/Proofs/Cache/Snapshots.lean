import ReportQuery.Catalog.Cached
import ReportQuery.Proofs.Cache.Turn
import ReportQuery.Proofs.Catalog.Listing

/-!
# Cached catalogs answer snapshots

A live catalog changes under its two caches, and each cache answers with what it read when it was
last filled. Which catalog that was is said by the past alone (`FilledFrom`): the catalog before the
last turn in which the counter of the cache went up. Changes of the schema and whatever happens to
the other cache leave no trace in an answer, and the first request after everything was invalidated
reads the catalog as it is then (`AnswersSnapshots`).

The two caches hold different things but live alike, so everything is stated for a **view** of a
catalog, which is one of the two. For a view, a turn has four forms (`CatalogView.Takes`): its
request is served, or fills its cache; its cache is cleared; or the turn is about something else.

## Two clocks

The catalog changes with the turns that create and drop tables, and a cache changes with the turns
that are about it. An answer is right when it is the one that the catalog would have given at the
time at which the cache was last filled, and that time is found without the cache: it is the last
turn that filled it. The invariant (`HoldsSnapshots`) says of each view that what it holds is what
it would have read then; a turn about the catalog moves the present away from that time and leaves
the time itself alone.

That the two caches do not disturb each other is no extra argument. A turn about the other view
falls under the last of the four forms, like a change of the catalog.
-/

namespace ReportQuery

open LiveCatalog

/-- What a cache keeps of a catalog. -/
inductive CatalogView where
  | tableNames | relations
deriving DecidableEq

namespace CatalogView

/-- The request for the view. -/
def request : CatalogView → LiveCatalog.Step
  | .tableNames => .getTableNames
  | .relations => .getRelations

/-- The invalidation of the cache of the view. -/
def invalidation : CatalogView → LiveCatalog.Step
  | .tableNames => .invalidateTableNames
  | .relations => .invalidateRelations

/-- What a reader of the catalog is told, without a cache. -/
def read (c : Catalog) : CatalogView → Answer
  | .tableNames => .tableNames c.tableNames
  | .relations => .relations c.relatedTables.value

/-- Whether the cache of the view holds a value. -/
def state (cache : CatalogCache) : CatalogView → CacheState
  | .tableNames => cache.tableNames.state
  | .relations => cache.relations.state

/-- How often the cache of the view was filled. -/
def loadCount (cache : CatalogCache) : CatalogView → Nat
  | .tableNames => cache.tableNames.loadCount
  | .relations => cache.relations.loadCount

/-- What the cache of the view holds, as an answer. -/
def held (cache : CatalogCache) : CatalogView → Option Answer
  | .tableNames => cache.tableNames.entry.map .tableNames
  | .relations => cache.relations.entry.map .relations

/-- A cache is populated exactly when it holds something. -/
theorem state_eq_populated_iff {cache : CatalogCache} {v : CatalogView} :
    v.state cache = .populated ↔ ∃ a, v.held cache = some a := by
  cases v <;> simp [state, held, ReferenceCache.state_eq_populated_iff]

/-- A cache is empty exactly when it holds nothing. -/
theorem state_eq_empty_iff {cache : CatalogCache} {v : CatalogView} :
    v.state cache = .empty ↔ v.held cache = none := by
  cases v <;> simp [state, held, ReferenceCache.state_eq_empty_iff]

/-- The state is seen in what is held. -/
theorem state_congr {cache cache' : CatalogCache} {v : CatalogView}
    (h : v.held cache = v.held cache') : v.state cache = v.state cache' := by
  rcases hstate : v.state cache' with - | -
  · rw [state_eq_empty_iff, h, ← state_eq_empty_iff, hstate]
  · rw [state_eq_populated_iff, h, ← state_eq_populated_iff, hstate]

end CatalogView

namespace LiveCatalog

/-! ### What is seen of a run -/

/-- A turn of a live catalog. -/
abbrev CatalogTurn := Turn LiveCatalog Step Answer

/-- A step, without its log. -/
def act (l : LiveCatalog) (asked : Step) : Answer × LiveCatalog :=
  (l.step asked).value

/-- What a live catalog would answer now. -/
def answerTo (l : LiveCatalog) (asked : Step) : Answer :=
  (l.act asked).1

/-- The turn fills the cache of the view. -/
def Fills (v : CatalogView) (t : CatalogTurn) : Prop :=
  v.loadCount t.before.cache < v.loadCount t.after.cache

/-- The catalog is the one that the cache of the view was last filled from. -/
def FilledFrom (v : CatalogView) (past : List CatalogTurn) (c : Catalog) : Prop :=
  Since (fun t ↦ Fills v t ∧ t.before.catalog = c) (Fills v) past

/-- Everything was invalidated, and the view has not been asked for since. -/
def ClearedSince (v : CatalogView) (past : List CatalogTurn) : Prop :=
  Since (fun t ↦ t.asked = .invalidateAll) (fun t ↦ t.asked = v.request) past

/-- The step changes the schema, or tries to. -/
def Step.IsChange (b : Step) : Prop :=
  (∃ table, b = .create table) ∨ ∃ name, b = .drop name

/-- The catalog after a step, whatever is cached of it. A change that is refused is none. -/
def Step.applyTo (c : Catalog) : Step → Catalog
  | .create table => (c.create table).toOption.getD c
  | .drop name => (c.drop name).toOption.getD c
  | _ => c

/-- What a turn answers, and what it does to the catalog and the caches, by the past. -/
structure AnswersSnapshots (past : List CatalogTurn) (t : CatalogTurn) : Prop where
  /-- The catalog goes its own way. -/
  catalog_eq : t.after.catalog = t.asked.applyTo t.before.catalog
  /-- An empty cache is filled from the catalog as it is. -/
  fresh : ∀ v : CatalogView, t.asked = v.request → v.state t.before.cache = .empty →
    Fills v t ∧ t.answer = v.read t.before.catalog
  /-- A cache that holds a value answers with the catalog that it was last filled from. -/
  kept : ∀ v : CatalogView, t.asked = v.request → v.state t.before.cache = .populated →
    ∃ c, FilledFrom v past c ∧ t.answer = v.read c
  /-- A change of the schema does not reach a cache, so it changes no cached answer. -/
  changed : t.asked.IsChange → t.after.cache = t.before.cache ∧
    ∀ v : CatalogView, v.state t.before.cache = .populated →
      t.after.answerTo v.request = t.before.answerTo v.request
  /-- What is done to one cache is not seen of the other. -/
  apart : ∀ v w : CatalogView, w ≠ v → t.asked = v.request ∨ t.asked = v.invalidation →
    w.state t.after.cache = w.state t.before.cache ∧
    w.loadCount t.after.cache = w.loadCount t.before.cache ∧
    t.after.answerTo w.request = t.before.answerTo w.request
  /-- The first request after everything was invalidated reads the catalog as it is. -/
  refreshed : ∀ v : CatalogView, t.asked = v.request → ClearedSince v past →
    t.answer = v.read t.before.catalog

end LiveCatalog

/-! ### One turn -/

namespace CatalogView

/-- The caches when the one of the view is filled from a catalog. -/
def fill (c : Catalog) (cache : CatalogCache) : CatalogView → CatalogCache
  | .tableNames => { cache with tableNames := cache.tableNames.fill c.tableNames }
  | .relations => { cache with relations := cache.relations.fill c.relatedTables.value }

/-- The caches when the one of the view is cleared. -/
def clear (cache : CatalogCache) : CatalogView → CatalogCache
  | .tableNames => { cache with tableNames := cache.tableNames.clear }
  | .relations => { cache with relations := cache.relations.clear }

variable {v w : CatalogView} {cache : CatalogCache} {c : Catalog}

@[simp] theorem held_fill_self : v.held (v.fill c cache) = some (v.read c) := by
  cases v <;> rfl

@[simp] theorem loadCount_fill_self : v.loadCount (v.fill c cache) = v.loadCount cache + 1 := by
  cases v <;> rfl

@[simp] theorem held_clear_self : v.held (v.clear cache) = none := by
  cases v <;> rfl

@[simp] theorem loadCount_clear : w.loadCount (v.clear cache) = w.loadCount cache := by
  cases v <;> cases w <;> rfl

/-- Filling one cache leaves what the other holds. -/
theorem held_fill_of_ne (h : w ≠ v) : w.held (v.fill c cache) = w.held cache := by
  cases v <;> cases w <;> simp_all [held, fill]

theorem loadCount_fill_of_ne (h : w ≠ v) :
    w.loadCount (v.fill c cache) = w.loadCount cache := by
  cases v <;> cases w <;> simp_all [loadCount, fill]

theorem held_clear_of_ne (h : w ≠ v) : w.held (v.clear cache) = w.held cache := by
  cases v <;> cases w <;> simp_all [held, clear]

end CatalogView

namespace LiveCatalog

variable {l : LiveCatalog} {v w : CatalogView}

/-- A view that holds something answers with it, and nothing changes. -/
theorem act_request_of_held {a : Answer} (h : v.held l.cache = some a) :
    l.act v.request = (a, l) := by
  cases v with
  | tableNames =>
    obtain ⟨names, hentry, rfl⟩ := Option.map_eq_some_iff.1 h
    simp only [act, CatalogView.request, step, CatalogCache.getTableNames, ReferenceCache.get,
      hentry, Logged.map]
  | relations =>
    obtain ⟨pairs, hentry, rfl⟩ := Option.map_eq_some_iff.1 h
    simp only [act, CatalogView.request, step, CatalogCache.getRelations, ReferenceCache.get,
      hentry, Logged.map]

/-- A view that holds nothing reads the catalog and keeps what it has read. -/
theorem act_request_of_not_held (h : v.held l.cache = none) :
    l.act v.request = (v.read l.catalog, { l with cache := v.fill l.catalog l.cache }) := by
  cases v with
  | tableNames =>
    have hentry : l.cache.tableNames.entry = none := Option.map_eq_none_iff.1 h
    simp only [act, CatalogView.request, step, CatalogCache.getTableNames, ReferenceCache.get,
      hentry, Logged.map, Logged.andThen, CatalogCache.loadTableNames, Loader.reading, Except.map,
      CatalogView.read, CatalogView.fill]
  | relations =>
    have hentry : l.cache.relations.entry = none := Option.map_eq_none_iff.1 h
    simp only [act, CatalogView.request, step, CatalogCache.getRelations, ReferenceCache.get,
      hentry, Logged.map, Logged.andThen, CatalogCache.loadRelations, Loader.reading,
      CatalogView.read, CatalogView.fill]

/-- An invalidation clears the cache of its view and answers nothing. -/
theorem act_invalidation :
    l.act v.invalidation = (.nothing, { l with cache := v.clear l.cache }) := by
  cases v <;> rfl

theorem act_invalidateAll : l.act .invalidateAll = (.nothing, { l with
    cache := CatalogView.relations.clear (CatalogView.tableNames.clear l.cache) }) :=
  rfl

/-- Only a change of the catalog changes the catalog. -/
theorem catalog_act (l : LiveCatalog) (b : Step) : (l.act b).2.catalog = b.applyTo l.catalog := by
  cases b with
  | getTableNames =>
    rcases h : CatalogView.tableNames.held l.cache with - | a
    · exact congrArg (·.2.catalog) (act_request_of_not_held h)
    · exact congrArg (·.2.catalog) (act_request_of_held h)
  | getRelations =>
    rcases h : CatalogView.relations.held l.cache with - | a
    · exact congrArg (·.2.catalog) (act_request_of_not_held h)
    · exact congrArg (·.2.catalog) (act_request_of_held h)
  | invalidateTableNames => rfl
  | invalidateRelations => rfl
  | invalidateAll => rfl
  | create table =>
    rw [act, step, Step.applyTo]
    cases l.catalog.create table <;> rfl
  | drop name =>
    rw [act, step, Step.applyTo]
    cases l.catalog.drop name <;> rfl

/-- A change of the schema does not reach the caches. -/
theorem cache_act_of_isChange {b : Step} (h : b.IsChange) : (l.act b).2.cache = l.cache := by
  obtain ⟨table, rfl⟩ | ⟨name, rfl⟩ := h
  · rw [act, step]
    cases l.catalog.create table <;> rfl
  · rw [act, step]
    cases l.catalog.drop name <;> rfl

/-- What is answered now is what the cache holds or, when it holds nothing, what the catalog
says. -/
theorem answerTo_request :
    l.answerTo v.request = (v.held l.cache).getD (v.read l.catalog) := by
  rcases h : v.held l.cache with - | a
  · rw [answerTo, act_request_of_not_held h, Option.getD_none]
  · rw [answerTo, act_request_of_held h, Option.getD_some]

end LiveCatalog

namespace CatalogView

/-- The step takes the value of the view out of its cache. -/
def ClearedBy (v : CatalogView) (b : LiveCatalog.Step) : Prop :=
  b = v.invalidation ∨ b = .invalidateAll

/-- The forms of a turn, as a view sees it. -/
inductive Takes (v : CatalogView) : CatalogTurn → Prop
  | served {l a} (held : v.held l.cache = some a) : Takes v ⟨l, v.request, a, l⟩
  | filled {l} (empty : v.held l.cache = none) : Takes v
    ⟨l, v.request, v.read l.catalog, { l with cache := v.fill l.catalog l.cache }⟩
  | cleared {l b answer l'} (asked : v.ClearedBy b) (held : v.held l'.cache = none)
    (count : v.loadCount l'.cache = v.loadCount l.cache) : Takes v ⟨l, b, answer, l'⟩
  | aside {l b answer l'} (asked : b ≠ v.request) (kept : ¬ v.ClearedBy b)
    (held : v.held l'.cache = v.held l.cache)
    (count : v.loadCount l'.cache = v.loadCount l.cache) : Takes v ⟨l, b, answer, l'⟩

variable {v w : CatalogView}

/-- Every step is for a view, clears all, or changes the schema. -/
theorem exists_step (b : LiveCatalog.Step) :
    (∃ v : CatalogView, b = v.request ∨ b = v.invalidation) ∨ b = .invalidateAll ∨ b.IsChange := by
  cases b with
  | getTableNames => exact .inl ⟨.tableNames, .inl rfl⟩
  | getRelations => exact .inl ⟨.relations, .inl rfl⟩
  | invalidateTableNames => exact .inl ⟨.tableNames, .inr rfl⟩
  | invalidateRelations => exact .inl ⟨.relations, .inr rfl⟩
  | invalidateAll => exact .inr (.inl rfl)
  | create table => exact .inr (.inr (.inl ⟨table, rfl⟩))
  | drop name => exact .inr (.inr (.inr ⟨name, rfl⟩))

@[simp] theorem request_inj : w.request = v.request ↔ w = v := by
  cases v <;> cases w <;> simp [request]

@[simp] theorem invalidation_ne_request : w.invalidation ≠ v.request := by
  cases v <;> cases w <;> simp [request, invalidation]

@[simp] theorem request_ne_invalidateAll : v.request ≠ .invalidateAll := by
  cases v <;> simp [request]

@[simp] theorem not_clearedBy_request : ¬ v.ClearedBy w.request := by
  simp [ClearedBy, Ne.symm invalidation_ne_request]

@[simp] theorem clearedBy_invalidation_iff : v.ClearedBy w.invalidation ↔ w = v := by
  cases v <;> cases w <;> simp [ClearedBy, invalidation]

@[simp] theorem not_isChange_request : ¬ v.request.IsChange := by
  cases v <;> simp [Step.IsChange, request]

/-- What clears a cache does not change the catalog. -/
theorem not_isChange_of_clearedBy {b : LiveCatalog.Step} (hb : v.ClearedBy b) : ¬ b.IsChange := by
  obtain rfl | rfl := hb
  · cases v <;> simp [Step.IsChange, invalidation]
  · simp [Step.IsChange]

/-- A step for one view does nothing to the other. -/
theorem aside_of_ne (h : w ≠ v) {l : LiveCatalog} {b : LiveCatalog.Step}
    (hb : b = v.request ∨ b = v.invalidation) :
    w.held (l.act b).2.cache = w.held l.cache ∧
    w.loadCount (l.act b).2.cache = w.loadCount l.cache ∧ (l.act b).2.catalog = l.catalog := by
  obtain rfl | rfl := hb
  · rcases hheld : v.held l.cache with - | a
    · rw [act_request_of_not_held hheld]
      exact ⟨held_fill_of_ne h, loadCount_fill_of_ne h, rfl⟩
    · rw [act_request_of_held hheld]
      exact ⟨rfl, rfl, rfl⟩
  · rw [act_invalidation]
    exact ⟨held_clear_of_ne h, loadCount_clear, rfl⟩

/-- A request is a turn that its view takes. -/
theorem takes_request (v : CatalogView) (l : LiveCatalog) :
    v.Takes (.taken act l v.request) := by
  rw [Turn.taken]
  rcases hheld : v.held l.cache with - | a
  · rw [act_request_of_not_held hheld]
    exact .filled hheld
  · rw [act_request_of_held hheld]
    exact .served hheld

/-- **Every turn is one that a view takes**, whoever it is for. -/
theorem takes_turn (v : CatalogView) (l : LiveCatalog) (b : LiveCatalog.Step) :
    v.Takes (.taken act l b) := by
  obtain ⟨w, hb⟩ | rfl | hchange := exists_step b
  · by_cases hw : v = w
    · subst hw
      obtain rfl | rfl := hb
      · exact takes_request v l
      · rw [Turn.taken, act_invalidation]
        exact .cleared (.inl rfl) held_clear_self loadCount_clear
    · obtain ⟨hheld, hcount, -⟩ := aside_of_ne hw (l := l) hb
      refine .aside ?_ ?_ hheld hcount
      · obtain rfl | rfl := hb
        · simpa using Ne.symm hw
        · exact invalidation_ne_request
      · obtain rfl | rfl := hb
        · exact not_clearedBy_request
        · simpa using Ne.symm hw
  · refine .cleared (.inr rfl) ?_ ?_
    · rw [act_invalidateAll]
      cases v <;> rfl
    · rw [act_invalidateAll, loadCount_clear, loadCount_clear]
  · have hcache : (l.act b).2.cache = l.cache := cache_act_of_isChange hchange
    refine .aside (fun h ↦ ?_) (fun h ↦ not_isChange_of_clearedBy h hchange)
      (congrArg v.held hcache) (congrArg v.loadCount hcache)
    exact not_isChange_request (h ▸ hchange)

end CatalogView

namespace LiveCatalog

/-! ### The invariant -/

variable {past : List CatalogTurn} {t : CatalogTurn} {v : CatalogView}

/-- Each cache holds what the catalog said when it was last filled, and nothing when everything was
invalidated and it has not been asked for since. -/
structure HoldsSnapshots (past : List CatalogTurn) (l : LiveCatalog) : Prop where
  held : ∀ v : CatalogView, ∀ a, v.held l.cache = some a →
    ∃ c, FilledFrom v past c ∧ a = v.read c
  cleared : ∀ v : CatalogView, ClearedSince v past → v.held l.cache = none

/-- Caches that hold nothing hold no snapshot that could be wrong. -/
theorem HoldsSnapshots.start (catalog : Catalog) : HoldsSnapshots [] { catalog := catalog } where
  held v a h := by cases v <;> cases h
  cleared v _ := by cases v <;> rfl

/-- A view was last filled by the last turn, or by an earlier one if the last turn did not fill it.
-/
theorem filledFrom_concat {c : Catalog} : FilledFrom v (past ++ [t]) c ↔
    (Fills v t ∧ t.before.catalog = c) ∨ (FilledFrom v past c ∧ ¬ Fills v t) :=
  since_concat

/-- A view stays cleared until it is asked. -/
theorem clearedSince_concat : ClearedSince v (past ++ [t]) ↔
    t.asked = .invalidateAll ∨ (ClearedSince v past ∧ t.asked ≠ v.request) :=
  since_concat

/-- **Every turn keeps the snapshots.** -/
theorem HoldsSnapshots.keep (h : HoldsSnapshots past t.before) (ht : ∀ v : CatalogView, v.Takes t) :
    HoldsSnapshots (past ++ [t]) t.after where
  held v a ha := by
    have htaken := ht v
    cases htaken with
    | served held =>
      obtain ⟨c, hc, rfl⟩ := h.held v a ha
      exact ⟨c, filledFrom_concat.2 (.inr ⟨hc, Nat.lt_irrefl _⟩), rfl⟩
    -- only a turn that fills moves the time of the snapshot to the present
    | @filled l empty =>
      have hfills : Fills v ⟨l, v.request, v.read l.catalog,
          { l with cache := v.fill l.catalog l.cache }⟩ := by simp [Fills]
      refine ⟨l.catalog, filledFrom_concat.2 (.inl ⟨hfills, rfl⟩), ?_⟩
      simpa using ha.symm
    | cleared asked held count =>
      rw [held] at ha
      cases ha
    | aside asked kept held count =>
      rw [held] at ha
      obtain ⟨c, hc, rfl⟩ := h.held v a ha
      exact ⟨c, filledFrom_concat.2 (.inr ⟨hc, by simp [Fills, count]⟩), rfl⟩
  cleared v hv := by
    have htaken := ht v
    rw [clearedSince_concat] at hv
    cases htaken with
    | served held => simp at hv
    | filled empty => simp at hv
    | cleared asked held count => exact held
    | aside asked kept held count =>
      obtain hall | ⟨hv, -⟩ := hv
      · exact absurd (.inr hall) kept
      · exact held.trans (h.cleared v hv)

/-- A live catalog that holds snapshots answers with them. -/
theorem HoldsSnapshots.answers (h : HoldsSnapshots past t.before)
    (ht : t = .taken act t.before t.asked) : AnswersSnapshots past t where
  catalog_eq := by
    rw [ht]
    exact catalog_act t.before t.asked
  fresh v hv hempty := by
    have hheld := CatalogView.state_eq_empty_iff.1 hempty
    have hact := act_request_of_not_held hheld
    rw [ht, hv, Turn.taken, hact]
    exact ⟨by simp [Fills], rfl⟩
  kept v hv hpopulated := by
    obtain ⟨a, ha⟩ := CatalogView.state_eq_populated_iff.1 hpopulated
    obtain ⟨c, hc, rfl⟩ := h.held v a ha
    refine ⟨c, hc, ?_⟩
    rw [ht, hv, Turn.taken, act_request_of_held ha]
  changed hchange := by
    have hcache : t.after.cache = t.before.cache := by
      rw [ht]
      exact cache_act_of_isChange hchange
    refine ⟨hcache, fun v hpopulated ↦ ?_⟩
    obtain ⟨a, ha⟩ := CatalogView.state_eq_populated_iff.1 hpopulated
    rw [answerTo_request, answerTo_request, hcache, ha, Option.getD_some, Option.getD_some]
  -- the other view is a bystander of the turn
  apart v w hw hasked := by
    obtain ⟨hheld, hcount, hcatalog⟩ := CatalogView.aside_of_ne hw (l := t.before) hasked
    rw [ht, Turn.taken]
    refine ⟨CatalogView.state_congr hheld, hcount, ?_⟩
    rw [answerTo_request, answerTo_request]
    exact congrArg₂ (fun held c ↦ Option.getD held (w.read c)) hheld hcatalog
  refreshed v hv hcleared := by
    have hheld := h.cleared v hcleared
    rw [ht, hv, Turn.taken, act_request_of_not_held hheld]

/-! ### Whole runs -/

/-- **Cached catalogs answer snapshots.** Whatever is asked of a live catalog and however its schema
changes, from any catalog and empty caches on: every answer is what a reader would have been told of
the catalog from which the cache was last filled, which is the catalog as it is when the cache is
empty, and no change of the schema and no step for the other cache is seen in it. What a reader is
told are the names of all tables in order, or the related pairs. -/
theorem turns_answer_snapshots (catalog : Catalog) (steps : List Step) :
    (∀ c : Catalog, c.tableNames.Perm (c.tables.map (·.name)) ∧ c.tableNames.Pairwise (· ≤ ·)) ∧
    (turns act { catalog := catalog } steps).map (·.asked) = steps ∧
    ∀ past t future, turns act { catalog := catalog } steps = past ++ t :: future →
      AnswersSnapshots past t := by
  refine ⟨fun c ↦ ⟨c.tableNames_perm, c.pairwise_tableNames⟩, map_asked_turns _ _ _,
    fun past t future h ↦ ?_⟩
  obtain ⟨hpast, ht⟩ := turns_induction HoldsSnapshots (.start catalog)
    (fun past l b hpast ↦ hpast.keep (t := .taken act l b) fun v ↦ v.takes_turn l b) h
  exact hpast.answers ht

/-- A catalog with one table. -/
def storesCatalog : Catalog where
  tables := [{ name := "stores", columns := [{ name := "id", type := "INTEGER" }] }]

/-- The definition of another table. -/
def brandsDefinition : Catalog.TableDefinition where
  name := "brands"
  columns := [("id", "INTEGER")]

/-- The names are asked for, a table is created, and the names are asked for again: the second
answer does not know of the new table. -/
theorem turns_stores_answer_snapshots : ∃ past t future,
    turns act { catalog := storesCatalog }
      [.getTableNames, .create brandsDefinition, .getTableNames] = past ++ t :: future ∧
    t.before.catalog.tables.map (·.name) = ["stores", "brands"] ∧
    FilledFrom .tableNames past storesCatalog ∧
    t.answer = .tableNames storesCatalog.tableNames := by
  obtain ⟨-, -, hturns⟩ := turns_answer_snapshots storesCatalog
    [.getTableNames, .create brandsDefinition, .getTableNames]
  let first : CatalogTurn := .taken act { catalog := storesCatalog } .getTableNames
  let second : CatalogTurn := .taken act first.after (.create brandsDefinition)
  let third : CatalogTurn := .taken act second.after .getTableNames
  have hchange : Step.IsChange (.create brandsDefinition) := .inl ⟨_, rfl⟩
  have hcache : second.after.cache = first.after.cache := cache_act_of_isChange hchange
  have hpopulated : CatalogView.tableNames.state third.before.cache = .populated := by
    show CatalogView.tableNames.state second.after.cache = .populated
    rw [hcache]
    rfl
  obtain ⟨c, hc, hanswer⟩ := (hturns [first, second] third [] rfl).kept .tableNames rfl hpopulated
  -- the second turn fills nothing, so the cache was filled in the first one
  have hsecond : ¬ Fills .tableNames second := by
    show ¬ CatalogView.tableNames.loadCount first.after.cache < _
    rw [hcache]
    exact Nat.lt_irrefl _
  obtain ⟨hfills, -⟩ | ⟨hfirst, -⟩ :=
    filledFrom_concat.1 (show FilledFrom _ ([first] ++ [second]) c from hc)
  · exact absurd hfills hsecond
  obtain ⟨-, rfl⟩ | ⟨hnil, -⟩ :=
    filledFrom_concat.1 (show FilledFrom _ ([] ++ [first]) c from hfirst)
  · refine ⟨[first, second], third, [], rfl, ?_, hc, hanswer⟩
    show second.after.catalog.tables.map (·.name) = _
    rw [show second.after.catalog = (Step.create brandsDefinition).applyTo storesCatalog from
      catalog_act first.after _]
    decide +kernel
  · exact absurd hnil not_since_nil

end LiveCatalog

end ReportQuery
