import OrgService.Query.Condition
import OrgService.Query.Plan
import OrgService.Store

/-!
# Joins

A row starts as a base record and binds a record, or none, under the alias of each planned link in
turn. A link matches the records of its target type that satisfy its criteria and whose join key
equals that of the record the link starts from, in scan order. Where nothing matches, an inner
join drops the row and an outer join binds no record; a link below an alias that is bound to no
record binds no record as well.
-/

namespace OrgService

/-- A base record with the records bound to it so far. -/
structure JoinedRow where
  base : Record
  links : List (Json × Option Record)
  deriving Repr

namespace JoinedRow

/-- The record under an alias, or the base record if no alias is given. -/
def source (row : JoinedRow) : Option Json → Option Record
  | none => some row.base
  | some aliasName => (row.links.find? fun l ↦ l.1.same aliasName).bind Prod.snd

def bind (row : JoinedRow) (aliasName : Json) (r : Option Record) : JoinedRow :=
  ⟨row.base, row.links ++ [(aliasName, r)]⟩

end JoinedRow

namespace Value

/-- What a value is joined by: nothing if it is absent or null; an identifier if it is a text that
spells one. -/
def joinKey (v : Value) : Option Comparable :=
  match v with
  | .absent => none
  | .null => none
  | _ =>
    match v.comparable with
    | .null => none
    | .text s => some (((Guid.parse? s).map Comparable.guid).getD (.text s))
    | c => some c

end Value

namespace Query

/-- A name as a type of records; only texts name types. -/
def typeName? (name : Json) : Except Fault (Option String) :=
  match name with
  | .str s => .ok (some s)
  | _ => if name.isNameable then .ok none else .error (.breakdown (.notNameable name.kind))

def scan (s : Snapshot) (name : Json) : Except Fault (List Record) :=
  (typeName? name).map fun n ↦ (n.map s.scan).getD []

end Query

/-- A join key with the record and the attribute it was read from. -/
structure KeyedRecord where
  key : Comparable
  attr : Json
  record : Record
  deriving Repr

namespace KeyedRecord

/-- The key of an attribute of a record, if it has one. -/
def read? (r : Record) (attr : Json) : Except Fault (Option KeyedRecord) :=
  match Condition.lookup r attr with
  | .error cause => .error (.breakdown cause)
  | .ok v => .ok (v.joinKey.map fun key ↦ ⟨key, attr, r⟩)

/-- A signaling NaN is no key. -/
def checkKey (k : KeyedRecord) : Except Fault Unit :=
  match k.key with
  | .number n => if n.isSignaling then .error (.breakdown .nanKey) else .ok ()
  | _ => .ok ()

/-- Whether two keys were read from the same attribute of the same record. -/
def sameOrigin (a b : KeyedRecord) : Bool :=
  a.attr.same b.attr && a.record.logicalName == b.record.logicalName && a.record.id == b.record.id

/-- Whether two keys are equal; a NaN equals only itself. That of documents is the same wherever
it occurs, any other one only where it was read from. -/
def sameKey (a b : KeyedRecord) : Bool :=
  if a.key.isNaN then
    b.key.isNaN && ((a.key.isDocumentNaN && b.key.isDocumentNaN) || a.sameOrigin b)
  else match a.key.equal b.key with
    | .ok same => same
    | .error _ => false

end KeyedRecord

namespace PlannedLink

/-- The entry for a record of the target type: none if it has no key or fails the criteria. -/
def candidate? (p : PlannedLink) (r : Record) : Except Fault (Option KeyedRecord) := do
  match ← KeyedRecord.read? r p.link.toAttr with
  | none => .ok none
  | some k =>
    if ← p.link.criteria.holds r then
      k.checkKey
      .ok (some k)
    else .ok none

def candidatesOf (p : PlannedLink) : List Record → Except Fault (List KeyedRecord)
  | [] => .ok []
  | r :: rs => do
    let c ← p.candidate? r
    let cs ← candidatesOf p rs
    .ok (c.toList ++ cs)

def candidates (p : PlannedLink) (s : Snapshot) : Except Fault (List KeyedRecord) := do
  candidatesOf p (← Query.scan s p.link.toEntity)

def matchesFor (p : PlannedLink) (candidates : List KeyedRecord) (r : Record) :
    Except Fault (List Record) := do
  match ← KeyedRecord.read? r p.link.fromAttr with
  | none => .ok []
  | some k =>
    k.checkKey
    .ok ((candidates.filter k.sameKey).map KeyedRecord.record)

def droppedEntry (p : PlannedLink) (base : Record) : Log.Entry :=
  .diagnostic .join ("Dropping " ++ base.logicalName ++ " " ++ Fault.guidText base.id ++ ": no " ++
    p.link.toEntity.plain ++ " match for link '" ++ p.aliasName.plain ++ "'")

end PlannedLink

namespace JoinedRow

/-- All rows that a row grows into under links whose candidates are known. Each match is followed
through all further links before the next one. -/
def expand : List (PlannedLink × List KeyedRecord) → JoinedRow → Traced (List JoinedRow)
  | [], row => pure [row]
  | (p, candidates) :: rest, row =>
    match row.source p.source with
    | none => expand rest (row.bind p.aliasName none)
    | some r => do
      let found ← Traced.silent (p.matchesFor candidates r)
      if found.isEmpty then
        match p.link.join with
        | .outer => expand rest (row.bind p.aliasName none)
        | .inner => do
          Traced.write (p.droppedEntry row.base)
          pure []
      else Traced.flatMap (fun m ↦ expand rest (row.bind p.aliasName (some m))) found

end JoinedRow

namespace PlannedLink

def resolve (p : PlannedLink) (s : Snapshot) (rows : List JoinedRow) :
    Traced (List JoinedRow) := do
  let candidates ← Traced.silent (p.candidates s)
  Traced.flatMap (JoinedRow.expand [(p, candidates)]) rows

/-- The candidates of planned links, found from the last link to the first. -/
def allCandidates (s : Snapshot) :
    List PlannedLink → Except Fault (List (PlannedLink × List KeyedRecord))
  | [] => .ok []
  | p :: ps => do
    let rest ← allCandidates s ps
    let candidates ← p.candidates s
    .ok ((p, candidates) :: rest)

end PlannedLink

namespace Query

/-- The rows of a query in scan order: the base records that pass the criteria, expanded. -/
def rows (q : Query) (s : Snapshot) (plans : List PlannedLink) : Traced (List JoinedRow) := do
  let links ← Traced.silent (PlannedLink.allCandidates s plans)
  let base ← Traced.silent (scan s q.entityName)
  Traced.flatMap (fun r ↦ do
    if ← Traced.silent (q.criteria.holds r) then JoinedRow.expand links ⟨r, []⟩ else pure [])
    base

end Query

end OrgService
