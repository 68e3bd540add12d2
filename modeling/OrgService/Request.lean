import OrgService.ColumnSet
import OrgService.Query
import OrgService.Record

/-!
# Requests and responses

A caller asks for one record by its identity or for the rows of a query. Requests of other kinds
can be sent as well; whether anyone answers them is up to the message bus.
-/

namespace OrgService

/-- What a caller asks for. -/
inductive Request where
  | retrieve (entityName : Json) (id : Option Guid) (columns : ColumnSet)
  | retrieveMultiple (query : Query)
  | other (kind : String)

def Request.kind : Request → String
  | .retrieve .. => "RetrieveRequest"
  | .retrieveMultiple _ => "RetrieveMultipleRequest"
  | .other kind => kind

/-- What a caller gets back. -/
inductive Response where
  | record (r : Record)
  | collection (rows : Collection)

def Response.kind : Response → String
  | .record _ => "RetrieveResponse"
  | .collection _ => "RetrieveMultipleResponse"

end OrgService
