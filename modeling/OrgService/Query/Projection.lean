import OrgService.ColumnSet
import OrgService.NullPolicy
import OrgService.Query.Join

/-!
# Projection

A result record holds the requested attributes that are present on the source; nulls count as
present if the policy retains them. The columns of a linked record are called by its alias, a dot
and the attribute, and tell where their value came from.
-/

namespace OrgService

namespace Record

/-- The names that a column set selects: those requested, or the primary attribute followed by
the attributes of the record. -/
def selected (r : Record) (columns : ColumnSet) : List String :=
  if columns.all then firstOccurrences (r.primaryAttribute :: r.attributes.keys)
  else columns.names

def reportable (r : Record) (columns : ColumnSet) (policy : NullPolicy) :
    List (String × Value) :=
  (r.selected columns).filterMap fun name ↦
    if (r.lookup name).isPresent policy.keepsNull then some (name, r.lookup name) else none

/-- A new record with the identity of the source and its reportable attributes. -/
def project (r : Record) (columns : ColumnSet) (policy : NullPolicy) : Record :=
  ⟨r.logicalName, r.id, OrderedMap.ofList (r.reportable columns policy)⟩

def columnName (aliasName : Json) (attr : String) : String := aliasName.plain ++ "." ++ attr

def projectAliased (r : Record) (aliasName : Json) (columns : ColumnSet) (policy : NullPolicy) :
    List (String × Value) :=
  (r.reportable columns policy).map fun e ↦
    (columnName aliasName e.1, .aliased r.logicalName e.1 e.2)

def setAll (r : Record) (columns : List (String × Value)) : Record :=
  columns.foldl (fun r e ↦ r.set e.1 e.2) r

end Record

namespace JoinedRow

/-- The columns of the record bound by a link; none if no record is bound. -/
def linkedColumns (row : JoinedRow) (policy : NullPolicy) (p : PlannedLink) :
    List (String × Value) :=
  match row.source (some p.aliasName) with
  | none => []
  | some r => r.projectAliased p.aliasName p.link.columns policy

/-- The result record of a row: the base columns and then those of each link. -/
def toRecord (row : JoinedRow) (columns : ColumnSet) (plans : List PlannedLink)
    (policy : NullPolicy) : Record :=
  plans.foldl (fun r p ↦ r.setAll (row.linkedColumns policy p)) (row.base.project columns policy)

end JoinedRow

end OrgService
