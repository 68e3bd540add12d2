import OrgService.OrderedMap
import OrgService.Value.Equality

/-!
# Records

A record has a logical name, an identifier once it is stored, and attributes in the order in
which they were first assigned. An attribute that was never assigned is absent, which differs
from one that was assigned null. The primary attribute of a record, its logical name followed by
`id`, reads as the identifier unless it was assigned.
-/

namespace OrgService

/-- A record of some type. -/
structure Record where
  logicalName : String
  id : Option Guid
  attributes : OrderedMap String Value
  deriving Repr, Inhabited

namespace Record

/-- The name of the attribute that holds the identifier of records of a type. -/
def primaryAttributeOf (logicalName : String) : String := logicalName ++ "id"

def primaryAttribute (r : Record) : String := primaryAttributeOf r.logicalName

/-- A name for an attribute: a text that is not empty. -/
def attributeName? : Json → Option String
  | .str s => if s = "" then none else some s
  | _ => none

def nameAll (logicalName : String) :
    List (Json × Value) → Except RecordFault (List (String × Value))
  | [] => .ok []
  | (name, v) :: rest =>
    match attributeName? name with
    | none => .error (.badAttributeName logicalName name)
    | some s => (nameAll logicalName rest).map ((s, v) :: ·)

/-- Checks a logical name: a text that is not empty. -/
def checkLogicalName (name : Json) : Except RecordFault String :=
  match name with
  | .str s => if s = "" then .error (.badLogicalName "") else .ok s
  | _ => .error (.badLogicalName name.plain)

/-- A record with the given attributes, if its name and theirs are fit. -/
def make (logicalName : Json) (id : Option Guid) (attributes : List (Json × Value)) :
    Except RecordFault Record := do
  let name ← checkLogicalName logicalName
  let named ← nameAll name attributes
  .ok ⟨name, id, OrderedMap.ofList named⟩

/-- The value of an attribute: absent if it was never assigned, unless it is the primary one and
the record has an identifier. -/
def lookup (r : Record) (name : String) : Value :=
  match r.attributes.get? name with
  | some v => v
  | none =>
    if name = r.primaryAttribute then (r.id.map Value.guid).getD .absent else .absent

/-- The value of an attribute, or the default if it is not assigned or null. -/
def valueOr (r : Record) (name : String) (default : Value) : Value :=
  match r.attributes.get? name with
  | some .null => default
  | some v => v
  | none => default

def contains (r : Record) (name : String) : Bool := r.attributes.contains name

def assign (r : Record) (name : Json) (v : Value) : Except RecordFault Record :=
  match attributeName? name with
  | some s => .ok { r with attributes := r.attributes.insert s v }
  | none => .error (.badAttributeName r.logicalName name)

def set (r : Record) (name : String) (v : Value) : Record :=
  { r with attributes := r.attributes.insert name v }

/-- Removes an attribute, if it is assigned. -/
def remove? (r : Record) (name : String) : Option Record :=
  if r.contains name then some { r with attributes := r.attributes.erase name } else none

def toReference (r : Record) : Except RecordFault Value :=
  match r.id with
  | some id => .ok (.reference (.str r.logicalName) id .null)
  | none => .error (.noId r.logicalName)

/-- Whether every attribute of a list has an equal one among `others`, up to the first that has
none. -/
def equalAttributes (others : OrderedMap String Value) :
    List (String × Value) → Except Breakdown Bool
  | [] => .ok true
  | (name, v) :: rest =>
    match others.get? name with
    | none => .ok false
    | some w => do
      if ← v.equal w then equalAttributes others rest else .ok false

/-- Records are equal if names, identifiers and attributes are, in whatever order. -/
def equal (r s : Record) : Except Breakdown Bool :=
  if r.logicalName == s.logicalName && r.id == s.id &&
      r.attributes.size == s.attributes.size then
    equalAttributes s.attributes r.attributes.entries
  else .ok false

end Record

/-- The rows that a query found, with the type it asked for. -/
structure Collection where
  entityName : Json
  records : List Record
  deriving Repr

namespace Collection

/-- The row at an index; a negative one counts from the end. -/
def row (c : Collection) (index : Int) : Except Breakdown Record :=
  let i := if index < 0 then index + c.records.length else index
  match if i < 0 then none else c.records[i.toNat]? with
  | some r => .ok r
  | none => .error .outOfRange

end Collection

end OrgService
