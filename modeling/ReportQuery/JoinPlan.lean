import ReportQuery.Log
import ReportQuery.Relation.Standard
import ReportQuery.Request.Basic

/-!
# Join plans

How the tables of a report are joined. The first table is the base. Every later one is placed in
turn: by its own ON condition when that is complete; otherwise by the edge that relates it to
the earliest table included so far which has one. A table that is included already, or that is
related to no included table, is skipped and not refused.

The placements are listed one for each later table, in order; joins and skipped tables are the
two parts of that list.
-/

namespace ReportQuery

/-- One joined table, with the two sides of its condition. -/
structure JoinStep where
  table : String
  left : String
  right : String
  joinType : JoinType := .inner
  explicit : Bool := false
deriving Repr, DecidableEq

/-- The line that joins the table. -/
def JoinStep.sql (s : JoinStep) : String :=
  word s.joinType ++ " JOIN " ++ s.table ++ " ON " ++ s.left ++ " = " ++ s.right

/-- Why a table is not joined. -/
inductive SkipReason where
  | duplicate
  | unrelated (included : List String)
deriving Repr, DecidableEq

/-- The wording of a reason. -/
def SkipReason.message : SkipReason → String
  | .duplicate => "already included"
  | .unrelated included => "no relation to any of: " ++ ", ".intercalate included

/-- A requested table that is not joined. -/
structure SkippedTable where
  table : String
  reason : SkipReason
deriving Repr, DecidableEq

/-- The base table, the joins in order, and the tables left out. -/
structure JoinPlan where
  base : String
  joins : List JoinStep
  skipped : List SkippedTable
deriving Repr, DecidableEq

namespace JoinPlan

/-- The tables of the plan: the base and the table of every join. -/
def included (p : JoinPlan) : List String :=
  p.base :: p.joins.map (·.table)

/-! ### Placing a table -/

/-- What becomes of a requested table. -/
inductive Placement where
  | joined (step : JoinStep)
  | skipped (table : SkippedTable)
deriving Repr, DecidableEq

/-- The tables included after a placement. -/
def Placement.extend (included : List String) : Placement → List String
  | .joined step => if step.table ∈ included then included else included ++ [step.table]
  | .skipped _ => included

/-- The edge from the earliest included table that is related to the given one. -/
def findEdge (g : Relation.Graph) (included : List String) (table : String) :
    Option Relation.Edge :=
  included.findSome? fun candidate ↦ g.edge? (.text candidate) (.text table)

/-- The placement of a table, given the tables included before it. -/
def place (g : Relation.Graph) (default : JoinType) (included : List String) (t : TableSource) :
    Placement :=
  let joinType := t.joinType.getD default
  match t.explicitSides? with
  | some (left, right) => .joined { table := t.name, left, right, joinType, explicit := true }
  | none =>
    if t.name ∈ included then .skipped ⟨t.name, .duplicate⟩
    else match findEdge g included t.name with
      | some e =>
        .joined { table := t.name, left := e.ownerSide, right := e.referencedSide, joinType }
      | none => .skipped ⟨t.name, .unrelated included⟩

/-- The placements of tables in turn. -/
def placements (g : Relation.Graph) (default : JoinType) :
    List String → List TableSource → List Placement
  | _, [] => []
  | included, t :: ts =>
    let p := place g default included t
    p :: placements g default (p.extend included) ts

/-- The join of a placement. -/
def Placement.step? : Placement → Option JoinStep
  | .joined step => some step
  | .skipped _ => none

/-- The table that a placement leaves out. -/
def Placement.skipped? : Placement → Option SkippedTable
  | .joined _ => none
  | .skipped table => some table

/-! ### Resolving -/

/-- The plan for a base table and those after it. -/
def ofBase (g : Relation.Graph) (default : JoinType) (base : String) (ts : List TableSource) :
    JoinPlan :=
  let ps := placements g default [base] ts
  { base, joins := ps.filterMap Placement.step?, skipped := ps.filterMap Placement.skipped? }

/-- The plan for a list of tables, of which there has to be one. -/
def resolve? (g : Relation.Graph) (default : JoinType := .inner) :
    List TableSource → Option JoinPlan
  | [] => none
  | t :: ts => some (ofBase g default t.name ts)

/-- What is said when there is no table. -/
def noTableMessage : String := "At least one table is required to build FROM"

/-- The warnings about the tables left out. -/
def log (p : JoinPlan) : List LogEntry :=
  p.skipped.map fun s ↦ ⟨.warning, .joins,
    match s.reason with
    | .duplicate => "Table " ++ s.table ++ " requested more than once, JOIN ignored"
    | .unrelated _ => "No relation found for " ++ s.table ++ ", JOIN ignored"⟩

end JoinPlan

end ReportQuery
