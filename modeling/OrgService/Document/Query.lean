import OrgService.Document.Value
import OrgService.Query

/-!
# Query documents

A query document is an object with the name of the base entity type; columns, criteria, links,
orders and a limit may follow. Each failure names the path to the offending element. Where the
format has a list, an object is read as the list of its member names and a text as the list of
its characters.
-/

namespace OrgService

namespace Json

/-- The items of a list, the member names of an object or the characters of a text. -/
def sequence : Json → Except Fault (List Json)
  | .arr xs => .ok xs
  | .obj members => .ok (members.map fun m ↦ .str m.1)
  | .str s => .ok (s.toList.map fun c ↦ .str (String.ofList [c]))
  | raw => .error (.breakdown (.notSequence raw.kind))

def itemPlace (place part : String) (i : Nat) : String :=
  place ++ "." ++ part ++ "[" ++ toString i ++ "]"

def decodeItems {α : Type} (place part : String) (decode : String → Json → Except Fault α)
    (i : Nat) : List Json → Except Fault (List α)
  | [] => .ok []
  | x :: xs => do
    let y ← decode (itemPlace place part i) x
    let ys ← decodeItems place part decode (i + 1) xs
    .ok (y :: ys)

/-- Reads a member that is a list; it is empty if the member is missing. -/
def decodeMember {α : Type} (place part : String) (decode : String → Json → Except Fault α)
    (members : List (String × Json)) : Except Fault (List α) := do
  match members.lookup part with
  | none => .ok []
  | some raw => decodeItems place part decode 0 (← raw.sequence)

def decodeWord {α : Type} (all : List α) (text : α → String) (place : String) (raw : Json) :
    Except Fault α :=
  match all.find? fun a ↦ raw.same (.str (text a)) with
  | some a => .ok a
  | none =>
    .error (.document place (raw.shown ++ " is not one of " ++
      ", ".intercalate (all.map fun a ↦ Text.quoted (text a))))

/-- All texts of a list, if it holds nothing else. -/
def texts? : List Json → Option (List String)
  | [] => some []
  | .str s :: xs => (texts? xs).map (s :: ·)
  | _ :: _ => none

end Json

open Json

namespace ColumnSet

def decode (place : String) (raw : Json) : Except Fault ColumnSet :=
  if raw.same (.str "all") then .ok every
  else
    let names := match raw with
      | .arr items => texts? items
      | _ => Option.none
    match names with
    | some names => .ok (ofList names false)
    | Option.none => .error (.document place "expected 'all' or a list of names")

end ColumnSet

namespace Condition

def decode (place : String) (raw : Json) : Except Fault Condition :=
  match raw with
  | .obj members =>
    match members.lookup "attribute" with
    | none => .error (.document place "expected an object with 'attribute'")
    | some attr => do
      let operator ← decodeWord Operator.all Operator.text place
        ((members.lookup "operator").getD (.str "eq"))
      let values ← decodeMember place "values" Value.decode members
      .ok ⟨attr, operator, values⟩
  | _ => .error (.document place "expected an object with 'attribute'")

end Condition

namespace Order

def decode (place : String) (raw : Json) : Except Fault Order :=
  match raw with
  | .obj members =>
    match members.lookup "attribute" with
    | none => .error (.document place "expected an object with 'attribute'")
    | some attr => do
      let direction ← decodeWord Direction.all Direction.text place
        ((members.lookup "order").getD (.str "asc"))
      .ok ⟨attr, direction⟩
  | _ => .error (.document place "expected an object with 'attribute'")

end Order

namespace Filter

/-- What becomes of a sequence that holds no objects: it is fine if it is empty. -/
def noObjects {α : Type} (place part : String) (raw : Json) : Except Fault (List α) := do
  match ← raw.sequence with
  | [] => .ok []
  | _ :: _ => .error (.document (itemPlace place part 0) "expected an object")

mutual

def decode (place : String) : Json → Except Fault Filter
  | .obj members => do
    let connective ← decodeWord Connective.all Connective.text place
      ((members.lookup "operator").getD (.str "and"))
    let conditions ← decodeMember place "conditions" Condition.decode members
    let filters ← decodeNested place members
    .ok ⟨connective, conditions, filters⟩
  | _ => .error (.document place "expected an object")

def decodeNested (place : String) : List (String × Json) → Except Fault (List Filter)
  | [] => .ok []
  | (name, raw) :: rest =>
    if name = "filters" then decodeList place raw else decodeNested place rest

def decodeList (place : String) : Json → Except Fault (List Filter)
  | .arr items => decodeEach place 0 items
  | raw => noObjects place "filters" raw

def decodeEach (place : String) (i : Nat) : List Json → Except Fault (List Filter)
  | [] => .ok []
  | raw :: rest => do
    let f ← decode (itemPlace place "filters" i) raw
    let fs ← decodeEach place (i + 1) rest
    .ok (f :: fs)

end

/-- Reads the criteria among the members of a query or link; without them every record passes. -/
def decodeCriteria (place : String) (members : List (String × Json)) : Except Fault Filter :=
  decode (place ++ ".criteria") ((members.lookup "criteria").getD (.obj []))

end Filter

/-- Reads the columns among the members of a query or link; without them there are none. -/
def ColumnSet.decodeMember (place : String) (members : List (String × Json)) :
    Except Fault ColumnSet :=
  ColumnSet.decode (place ++ ".columns") ((members.lookup "columns").getD (.arr []))

namespace Link

def required (place name : String) (members : List (String × Json)) : Except Fault Json :=
  match members.lookup name with
  | some raw => .ok raw
  | none => .error (.document place ("missing " ++ Text.quoted name))

def decodeHead (place : String) (parent : Json) (members : List (String × Json)) :
    Except Fault Link := do
  let toEntity ← required place "to_entity" members
  let fromAttr ← required place "from_attribute" members
  let toAttr ← required place "to_attribute" members
  let join ← decodeWord JoinKind.all JoinKind.text place
    ((members.lookup "join").getD (.str "inner"))
  let columns ← ColumnSet.decodeMember place members
  let criteria ← Filter.decodeCriteria place members
  .ok ⟨(members.lookup "from_entity").getD parent, toEntity, fromAttr, toAttr, join,
    (members.lookup "alias").getD .null, columns, criteria, []⟩

mutual

def decode (place : String) (parent : Json) : Json → Except Fault Link
  | .obj members => do
    let head ← decodeHead place parent members
    let links ← decodeNested place head.toEntity members
    .ok { head with links := links }
  | _ => .error (.document place "expected an object")
termination_by structural raw => raw

def decodeNested (place : String) (parent : Json) :
    List (String × Json) → Except Fault (List Link)
  | [] => .ok []
  | (name, raw) :: rest =>
    if name = "links" then decodeList place parent raw else decodeNested place parent rest
termination_by structural members => members

def decodeList (place : String) (parent : Json) : Json → Except Fault (List Link)
  | .arr items => decodeEach place parent 0 items
  | raw => Filter.noObjects place "links" raw
termination_by structural raw => raw

def decodeEach (place : String) (parent : Json) (i : Nat) :
    List Json → Except Fault (List Link)
  | [] => .ok []
  | raw :: rest => do
    let l ← decode (itemPlace place "links" i) parent raw
    let ls ← decodeEach place parent (i + 1) rest
    .ok (l :: ls)
termination_by structural items => items

end

end Link

namespace Query

/-- Reads the limit: an integer, or null for none. -/
def decodeTopCount : Json → Except Fault (Option Int)
  | .null => .ok none
  | .int n => .ok (some n)
  | raw => .error (.document "query.top_count"
      ("expected an integer or null, got " ++ raw.shown))

def decode (raw : Json) : Except Fault Query :=
  match raw with
  | .obj members =>
    match members.lookup "entity_name" with
    | none => .error (.document "query" "expected an object with 'entity_name'")
    | some entityName => do
      let columns ← ColumnSet.decodeMember "query" members
      let criteria ← Filter.decodeCriteria "query" members
      let links ← Link.decodeNested "query" entityName members
      let orders ← decodeMember "query" "orders" Order.decode members
      let topCount ← decodeTopCount ((members.lookup "top_count").getD .null)
      .ok ⟨entityName, columns, criteria, links, orders, topCount⟩
  | _ => .error (.document "query" "expected an object with 'entity_name'")

end Query

end OrgService
