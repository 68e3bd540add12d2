import OrgService.MessageBus
import OrgService.Query.Evaluation

/-!
# The organization service

The service answers two kinds of requests from the contents of a store: the record with an
identity, reduced to the requested columns, and the rows of a query. Asking for a type that was
never seeded and for a record that does not exist are faults.
-/

namespace OrgService.Service

def retrievalEntry (entityName : Json) (id : Option Guid) (attributes : Nat) : Log.Entry :=
  .diagnostic .retrieval ("Retrieve " ++ entityName.plain ++ " " ++ Fault.guidText id ++ ": " ++
    toString attributes ++ " attribute(s) returned")

def find? (s : Snapshot) (entityName : Json) (id : Option Guid) : Option Record :=
  match entityName, id with
  | .str n, some g => s.get? n g
  | _, _ => none

def retrieve (s : Snapshot) (policy : NullPolicy) (entityName : Json) (id : Option Guid)
    (columns : ColumnSet) : Traced Record := do
  Traced.silent (Query.requireType s entityName)
  match find? s entityName id with
  | none => Traced.silent (.error (.recordNotFound entityName id))
  | some r =>
    let found := r.project columns policy
    Traced.write (retrievalEntry entityName id found.attributes.size)
    pure found

def answerRetrieve (s : Snapshot) (policy : NullPolicy) : Request → Traced Response
  | .retrieve entityName id columns => do
    let r ← retrieve s policy entityName id columns
    pure (.record r)
  | r => Traced.silent (.error (.noHandler r.kind))

def answerQuery (s : Snapshot) (policy : NullPolicy) : Request → Traced Response
  | .retrieveMultiple query => do
    let rows ← query.evaluate s policy
    pure (.collection rows)
  | r => Traced.silent (.error (.noHandler r.kind))

def bus : MessageBus Response :=
  OrderedMap.ofList
    [("RetrieveRequest", Handler.named "retrieve" (.fromBoth answerRetrieve)),
      ("RetrieveMultipleRequest", Handler.named "retrieve_multiple" (.fromBoth answerQuery))]

def execute (s : Snapshot) (policy : NullPolicy) (r : Request) : Traced Response :=
  (bus.bind s policy).dispatch r

end OrgService.Service
