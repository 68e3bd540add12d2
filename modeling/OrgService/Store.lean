import OrgService.Log.Entry
import OrgService.Record
import OrgService.Store.Ids

/-!
# The record store

The store keeps records by type and identifier, types and records in the order in which they were
first seeded. A batch is seeded as a whole or not at all. A snapshot is the contents of the store
at one time; later batches do not change it.
-/

namespace OrgService

abbrev Table := OrderedMap Guid Record

/-- The contents of a store at one time. -/
structure Snapshot where
  tables : OrderedMap String Table
  deriving Repr, Inhabited

namespace Snapshot

def empty : Snapshot := ⟨OrderedMap.empty⟩

/-- The records of a type; none if the type is unknown. -/
def table (s : Snapshot) (entityName : String) : Table :=
  (s.tables.get? entityName).getD OrderedMap.empty

def get? (s : Snapshot) (entityName : String) (id : Guid) : Option Record :=
  (s.table entityName).get? id

/-- The records of a type in the order in which they were first seeded. -/
def scan (s : Snapshot) (entityName : String) : List Record := (s.table entityName).values

def hasType (s : Snapshot) (entityName : String) : Bool := s.tables.contains entityName

/-- The names of the attributes that records of a type hold, and that of the primary one; none
if the type is unknown. -/
def knownAttributes (s : Snapshot) (entityName : String) : List String :=
  if s.hasType entityName then
    Record.primaryAttributeOf entityName ::
      (s.scan entityName).flatMap fun r ↦ r.attributes.keys
  else []

def put (s : Snapshot) (id : Guid) (r : Record) : Snapshot :=
  ⟨s.tables.insert r.logicalName ((s.table r.logicalName).insert id r)⟩

/-- Puts a record into the copy of its table, which is made when the type is first touched. -/
def touch (s : Snapshot) (touched : OrderedMap String Table) (p : Guid × Record) :
    OrderedMap String Table :=
  touched.insert p.2.logicalName
    (((touched.get? p.2.logicalName).getD (s.table p.2.logicalName)).insert p.1 p.2)

/-- The contents after a batch: the touched tables take the place of the earlier ones, all others
stay as they are. -/
def publish (s : Snapshot) (batch : List (Guid × Record)) : Snapshot :=
  ⟨s.tables.insertAll (batch.foldl s.touch OrderedMap.empty).entries⟩

end Snapshot

/-- A store: its contents, whether it refuses to seed an identity twice, and its generator. -/
structure Store where
  contents : Snapshot
  rejectDuplicates : Bool
  generator : IdGenerator

namespace Store

def new (generator : IdGenerator) (rejectDuplicates : Bool) : Store :=
  ⟨Snapshot.empty, rejectDuplicates, generator⟩

/-- A record with its identifier, an identifier being generated if it has none. -/
def prepare (g : IdGenerator) (r : Record) : (Guid × Record) × IdGenerator :=
  match r.id with
  | some id => ((id, r), g)
  | none => ((g.next.1, { r with id := some g.next.1 }), g.next.2)

def prepareAll (g : IdGenerator) : List Record → List (Guid × Record) × IdGenerator
  | [] => ([], g)
  | r :: rs =>
    let (p, g) := prepare g r
    let (ps, g) := prepareAll g rs
    (p :: ps, g)

/-- The first record of a batch whose identity is stored or occurs earlier in the batch. -/
def duplicate? (s : Snapshot) (seen : List (String × Guid)) :
    List (Guid × Record) → Option (Guid × Record)
  | [] => none
  | (id, r) :: rest =>
    if seen.contains (r.logicalName, id) || (s.get? r.logicalName id).isSome then some (id, r)
    else duplicate? s ((r.logicalName, id) :: seen) rest

def seededEntry (batch : List (Guid × Record)) : Log.Entry :=
  .diagnostic .store ("Seeded " ++ toString batch.length ++ " record(s) into " ++
    toString (batch.map fun p ↦ p.2.logicalName).eraseDups.length ++ " entity type(s)")

/-- Seeds a batch: every record gets an identifier and replaces the one that is stored under its
identity, in its place. Answers with the store afterwards and the records as stored. -/
def seed (s : Store) (records : List Record) : Store × Traced (List Record) :=
  let (batch, g) := prepareAll s.generator records
  let s := { s with generator := g }
  match if s.rejectDuplicates then duplicate? s.contents [] batch else none with
  | some (id, r) => (s, Traced.silent (.error (.duplicateSeed r.logicalName id)))
  | none =>
    ({ s with contents := s.contents.publish batch },
      ⟨[seededEntry batch], .ok (batch.map Prod.snd)⟩)

def typeNames (s : Store) : List String := s.contents.tables.keys

end Store

end OrgService
