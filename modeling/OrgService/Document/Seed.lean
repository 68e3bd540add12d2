import OrgService.Document.Value
import OrgService.Record

/-!
# Seed documents

A seed document is a list of records. A record is an object with a logical name, an identifier
unless the store is to assign one, and an object of attributes.
-/

namespace OrgService

namespace Json

/-- Reads the identifier of a record: none if it is missing or null. -/
def readId (place : String) (raw : Json) : Except Fault (Option Guid) :=
  match raw.member? "id" with
  | none => .ok none
  | some .null => .ok none
  | some (.str s) =>
    match Guid.parse s with
    | .ok g => .ok (some g)
    | .error problem => .error (.document place problem.message)
  | some other =>
    .error (.document place ("'" ++ other.kind ++ "' object has no attribute 'replace'"))

end Json

namespace Record

def decodeAttributes (place : String) : List (String × Json) → Except Fault (List (Json × Value))
  | [] => .ok []
  | (name, raw) :: rest => do
    let v ← Value.decode (place ++ ".attributes." ++ name) raw
    let vs ← decodeAttributes place rest
    .ok ((.str name, v) :: vs)

def decode (place : String) (raw : Json) : Except Fault Record :=
  match raw with
  | .obj members =>
    match (members.lookup "attributes").getD (.obj []) with
    | .obj attributes => do
      let id ← raw.readId place
      match members.lookup "logical_name" with
      | none => .error (.document place "missing 'logical_name'")
      | some logicalName =>
        let values ← decodeAttributes place attributes
        match make logicalName id values with
        | .ok r => .ok r
        | .error fault => .error (.document place fault.message)
    | _ => .error (.document (place ++ ".attributes") "expected an object")
  | _ => .error (.document place "expected an object")

def decodeFrom (i : Nat) : List Json → Except Fault (List Record)
  | [] => .ok []
  | raw :: rest => do
    let r ← decode ("records[" ++ toString i ++ "]") raw
    let rs ← decodeFrom (i + 1) rest
    .ok (r :: rs)

def decodeSeed : Json → Except Fault (List Record)
  | .arr items => decodeFrom 0 items
  | _ => .error (.document "records" "expected a list of records")

def encode (r : Record) : Json :=
  .obj [("logical_name", .str r.logicalName),
    ("id", (r.id.map fun g ↦ Json.str g.toString).getD .null),
    ("attributes", .obj (r.attributes.entries.map fun e ↦ (e.1, e.2.encode)))]

end Record

namespace Collection

def encode (c : Collection) : Json :=
  .obj [("entity_name", c.entityName), ("entities", .arr (c.records.map Record.encode))]

end Collection

end OrgService
