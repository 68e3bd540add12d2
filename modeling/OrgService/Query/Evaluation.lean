import OrgService.Query.Ordering
import OrgService.Query.Projection
import OrgService.Query.Validation

/-!
# Evaluation of queries

A query is planned and validated, its rows are produced, sorted and cut to the limit, and each
row is projected to a result record. Without orders the rows follow the scan order of the base
records and, for each of them, that of the linked records.
-/

namespace OrgService.Query

/-- The first rows up to a limit. -/
def limit (topCount : Option Int) (rows : List JoinedRow) : List JoinedRow :=
  match topCount with
  | none => rows
  | some n => rows.take n.toNat

def summaryEntry (q : Query) (links rows : Nat) : Log.Entry :=
  .diagnostic .evaluation ("Query on " ++ q.entityName.plain ++ " with " ++ toString links ++
    " link(s) returned " ++ toString rows ++ " row(s)")

def orderedRows (q : Query) (s : Snapshot) (plans : List PlannedLink) :
    Traced (List JoinedRow) := do
  let rows ← q.rows s plans
  let sorted ← Traced.silent (JoinedRow.sortAll q.orders rows)
  pure (limit q.topCount sorted)

/-- Answers a query from a snapshot. -/
def evaluate (q : Query) (s : Snapshot) (policy : NullPolicy) : Traced Collection := do
  let plans ← Traced.silent (q.planLinks.mapError .query)
  Traced.silent (q.validate s plans)
  let rows ← q.orderedRows s plans
  let records := rows.map fun row ↦ row.toRecord q.columns plans policy
  Traced.write (q.summaryEntry plans.length records.length)
  pure ⟨q.entityName, records⟩

end OrgService.Query
