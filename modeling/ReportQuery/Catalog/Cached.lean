import ReportQuery.Cache
import ReportQuery.Catalog.Definition

/-!
# Cached catalogs

The names of the tables and the pairs of related tables change only with the schema, so each is
kept in a cache of its own in front of the catalog. The caches do not know of each other, and a
change of the catalog reaches neither of them before it is invalidated.
-/

namespace ReportQuery

/-- The caches in front of a catalog. -/
structure CatalogCache where
  tableNames : ReferenceCache (List String) := { name := "table_names" }
  relations : ReferenceCache (List (String × String)) := { name := "relations" }
deriving Repr, DecidableEq

namespace CatalogCache

variable {ε : Type}

/-- Reads the names of the tables of a catalog that may be out of reach. -/
def loadTableNames : Loader (Except ε Catalog) ε (List String) :=
  .reading fun source ↦ { value := source.map Catalog.tableNames }

/-- Reads the pairs of related tables of a catalog that may be out of reach. -/
def loadRelations : Loader (Except ε Catalog) ε (List (String × String)) :=
  .reading fun
    | .ok c => c.relatedTables.map .ok
    | .error e => { value := .error e }

/-- The names of the tables, from the cache if it holds them. -/
def getTableNames (source : Except ε Catalog) (c : CatalogCache) :
    Logged (Except ε (List String) × CatalogCache) :=
  (c.tableNames.get loadTableNames source).map fun (names, cache, _) ↦
    (names, { c with tableNames := cache })

/-- The pairs of related tables, from the cache if it holds them. -/
def getRelations (source : Except ε Catalog) (c : CatalogCache) :
    Logged (Except ε (List (String × String)) × CatalogCache) :=
  (c.relations.get loadRelations source).map fun (pairs, cache, _) ↦
    (pairs, { c with relations := cache })

/-- Invalidates the names of the tables. -/
def invalidateTableNames (c : CatalogCache) : Logged CatalogCache :=
  c.tableNames.invalidate.map fun cache ↦ { c with tableNames := cache }

/-- Invalidates the pairs of related tables. -/
def invalidateRelations (c : CatalogCache) : Logged CatalogCache :=
  c.relations.invalidate.map fun cache ↦ { c with relations := cache }

/-- Invalidates both caches. -/
def invalidateAll (c : CatalogCache) : Logged CatalogCache :=
  c.invalidateTableNames.andThen invalidateRelations

end CatalogCache

/-! ### Histories -/

/-- A catalog that changes, with the caches in front of it. -/
structure LiveCatalog where
  catalog : Catalog
  cache : CatalogCache := {}
deriving Repr, DecidableEq

namespace LiveCatalog

/-- What happens to a live catalog: a request, an invalidation, or a change of the schema. -/
inductive Step where
  | getTableNames | getRelations
  | invalidateTableNames | invalidateRelations | invalidateAll
  | create (table : Catalog.TableDefinition)
  | drop (name : String)
deriving Repr, DecidableEq

/-- What a step answers; a step that is no request answers nothing, unless it is refused. -/
inductive Answer where
  | tableNames (names : List String)
  | relations (pairs : List (String × String))
  | nothing
  | refused (reason : Catalog.SchemaError)
deriving Repr, DecidableEq

/-- The live catalog after a change of its schema. A change that is refused is none. -/
def change (l : LiveCatalog) : Except Catalog.SchemaError Catalog → Answer × LiveCatalog
  | .ok catalog => (.nothing, { l with catalog })
  | .error reason => (.refused reason, l)

/-- One step. A catalog at hand can always be read. -/
def step (l : LiveCatalog) : Step → Logged (Answer × LiveCatalog)
  | .getTableNames =>
    (l.cache.getTableNames (.ok l.catalog : Except Empty Catalog)).map fun
      | (.ok names, cache) => (.tableNames names, { l with cache })
  | .getRelations =>
    (l.cache.getRelations (.ok l.catalog : Except Empty Catalog)).map fun
      | (.ok pairs, cache) => (.relations pairs, { l with cache })
  | .invalidateTableNames =>
    l.cache.invalidateTableNames.map fun cache ↦ (.nothing, { l with cache })
  | .invalidateRelations =>
    l.cache.invalidateRelations.map fun cache ↦ (.nothing, { l with cache })
  | .invalidateAll => l.cache.invalidateAll.map fun cache ↦ (.nothing, { l with cache })
  | .create table => { value := l.change (l.catalog.create table) }
  | .drop name => { value := l.change (l.catalog.drop name) }

end LiveCatalog

end ReportQuery
