import OrgService.Query.Condition
import OrgService.Query.Plan
import OrgService.Store

/-!
# Validation of queries

Before any row is produced, a query is checked against the store: its limit is not negative, the
types it names have been seeded, its conditions are well formed, every attribute it names is
known on its type, and every link starts from the type of the record it hangs from.
-/

namespace OrgService

namespace Json

def checkName (name : Json) : Except Fault Unit :=
  if name.isNameable then .ok () else .error (.breakdown (.notNameable name.kind))

def dropRepeated : List Json → List Json
  | [] => []
  | x :: xs => x :: (dropRepeated xs).filter fun y ↦ !x.same y

/-- Whether a name may come before another: texts in the order of their characters, numbers by
value. -/
def namePrecedes : Json → Json → Bool
  | .str s, .str t => s ≤ t
  | a, b =>
    match a.number?, b.number? with
    | some m, some n => m.exact.compare? n.exact != some .gt
    | _, _ => false

def namesComparable : Json → Json → Bool
  | .str _, .str _ => true
  | a, b => a.number?.isSome && b.number?.isSome

/-- Names without repetitions in their order. -/
def sortNames (names : List Json) : Except Fault (List Json) :=
  match dropRepeated names with
  | [] => .ok []
  | x :: xs =>
    match xs.find? fun y ↦ !x.namesComparable y with
    | some y => .error (.breakdown (.unorderedNames y.kind x.kind))
    | none => .ok ((x :: xs).mergeSort namePrecedes)

end Json

namespace Filter

/-- The names of the attributes that a filter tests, each once, in their order. -/
def attributeNames (f : Filter) : Except Fault (List Json) := do
  f.attributes.forM Json.checkName
  Json.sortNames f.attributes

end Filter

namespace Query

def requireType (s : Snapshot) (name : Json) : Except Fault Unit :=
  match name with
  | .str n => if s.hasType n then .ok () else .error (.query (.unknownEntityType name))
  | _ => do
    name.checkName
    .error (.query (.unknownEntityType name))

def isKnown (s : Snapshot) (entityName attr : Json) : Bool :=
  match entityName, attr with
  | .str n, .str a => (s.knownAttributes n).contains a
  | _, _ => false

/-- Attributes must be known on a type. Of several unknown ones the first in their order is
reported. -/
def requireAttributes (s : Snapshot) (entityName : Json) (attrs : List Json) :
    Except Fault Unit := do
  attrs.forM Json.checkName
  let sorted ← Json.sortNames attrs
  match sorted.find? fun a ↦ !isKnown s entityName a with
  | none => .ok ()
  | some a => .error (.query (.unknownAttribute entityName a))

/-- The types of the aliases of links that have been checked, the latest first, with that of the
query itself at the end. -/
abbrev AliasTypes := List (Option Json × Json)

/-- Whether two aliases are the same; a missing one stands for the query itself. A NaN is found
again under itself although it equals nothing. -/
def sameAlias : Option Json → Option Json → Bool
  | none, none => true
  | some a, some b => a.same b || (a.isNaN && b.isNaN)
  | _, _ => false

def typeOf? (types : AliasTypes) (aliasName : Option Json) : Option Json :=
  (types.find? fun t ↦ sameAlias t.1 aliasName).map Prod.snd

/-- Checks a planned link; `attachedTo` is the type of the record it hangs from. -/
def checkLink (s : Snapshot) (p : PlannedLink) (attachedTo : Json) : Except Fault Unit := do
  if !p.link.fromEntity.same attachedTo then
    .error (.query (.misplacedLink p.aliasName p.link.fromEntity attachedTo))
  requireType s p.link.toEntity
  p.link.criteria.check.mapError .query
  requireAttributes s attachedTo [p.link.fromAttr]
  requireAttributes s p.link.toEntity (p.link.toAttr :: p.link.criteria.attributes)
  p.aliasName.checkName

def checkLinks (s : Snapshot) (types : AliasTypes) : List PlannedLink → Except Fault Unit
  | [] => .ok ()
  | p :: ps => do
    let attachedTo := (typeOf? types p.source).getD .null
    checkLink s p attachedTo
    checkLinks s ((some p.aliasName, p.link.toEntity) :: types) ps

def validate (q : Query) (s : Snapshot) (plans : List PlannedLink) : Except Fault Unit := do
  match q.topCount with
  | some n => if n < 0 then .error (.query (.negativeTopCount n))
  | none => .ok ()
  requireType s q.entityName
  q.criteria.check.mapError .query
  requireAttributes s q.entityName (q.criteria.attributes ++ q.orders.map Order.attr)
  checkLinks s [(none, q.entityName)] plans

end Query

end OrgService
