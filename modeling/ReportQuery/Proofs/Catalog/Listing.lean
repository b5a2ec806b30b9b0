import Mathlib.Data.String.Basic
import ReportQuery.Catalog.Basic

/-!
# Tables in the order of their names

A catalog lists its tables by name, in the order of code points: the list is the tables in another
order, and the names in it do not fall.

The order is total, so there is one such list; the catalog itself keeps its tables in the order in
which they were created.
-/

namespace ReportQuery.Catalog

/-- The listing has the tables of the catalog, each as often as the catalog has it. -/
theorem sorted_perm (c : Catalog) : c.sorted.Perm c.tables :=
  List.mergeSort_perm _ _

/-- The listing is in the order of the names. -/
theorem pairwise_sorted (c : Catalog) : c.sorted.Pairwise fun s t ↦ s.name ≤ t.name := by
  have hsorted := @List.pairwise_mergeSort Table (fun s t ↦ decide (s.name ≤ t.name))
    (fun s t u hst htu ↦ by
      simp only [decide_eq_true_eq] at hst htu ⊢
      exact le_trans hst htu)
    (fun s t ↦ by simpa using le_total s.name t.name) c.tables
  exact hsorted.imp fun h ↦ by simpa using h

/-- The names that are listed are those of the tables. -/
theorem tableNames_perm (c : Catalog) : c.tableNames.Perm (c.tables.map (·.name)) :=
  c.sorted_perm.map _

theorem pairwise_tableNames (c : Catalog) : c.tableNames.Pairwise (· ≤ ·) :=
  List.pairwise_map.2 c.pairwise_sorted

end ReportQuery.Catalog
