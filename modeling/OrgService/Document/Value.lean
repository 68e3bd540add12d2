import OrgService.Value

/-!
# Attribute values in documents

Scalars stand for themselves. Every other value is an object with one member, whose name is the
tag of the kind. Aliased values are written but never read.
-/

namespace OrgService

/-- The tag of each kind of value that a document can hold. -/
inductive ValueTag where
  | reference
  | option
  | money
  | decimal
  | guid
  | date
  | timestamp
  deriving DecidableEq, Repr

namespace ValueTag

def all : List ValueTag := [.reference, .option, .money, .decimal, .guid, .date, .timestamp]

def text : ValueTag → String
  | .reference => "$reference"
  | .option => "$option"
  | .money => "$money"
  | .decimal => "$decimal"
  | .guid => "$guid"
  | .date => "$date"
  | .timestamp => "$datetime"

def ofText? (s : String) : Option ValueTag := all.find? (·.text == s)

end ValueTag

namespace Value

def encode : Value → Json
  | .absent => .obj [("$absent", .bool true)]
  | .null => .null
  | .number (.boolean b) => .bool b
  | .number (.integer n) => .int n
  | .number (.double x) => .double x
  | .number (.decimal d) => .obj [(ValueTag.decimal.text, .str d.toString)]
  | .text s => .str s
  | .guid g => .obj [(ValueTag.guid.text, .str g.toString)]
  | .date d => .obj [(ValueTag.date.text, .str d.toString)]
  | .timestamp t => .obj [(ValueTag.timestamp.text, .str t.toString)]
  | .reference logicalName id name =>
    .obj [(ValueTag.reference.text, .obj
      ([("logical_name", logicalName), ("id", .str id.toString)] ++
        match name with
        | .null => []
        | _ => [("name", name)]))]
  | .option n => .obj [(ValueTag.option.text, .int n)]
  | .money d => .obj [(ValueTag.money.text, .str d.toString)]
  | .aliased entityName attr v =>
    .obj [("$aliased",
      .obj [("entity", .str entityName), ("attribute", .str attr), ("value", v.encode)])]

end Value

namespace Json

/-- Reads an integer: a truth value as zero or one, a double by its whole part, a text as an
integer literal. An infinity breaks down. -/
def readInteger? : Json → Except Breakdown (Option Int)
  | .bool b => .ok (some (if b then 1 else 0))
  | .int n => .ok (some n)
  | .double (.infinity _) => .error .infiniteInteger
  | .double x => .ok x.truncate?
  | .str s => .ok (Text.decimalInteger? s)
  | _ => .ok none

/-- A text, if the document is one. -/
def text? : Json → Option String
  | .str s => some s
  | _ => none

/-- Reads a reference: an object with a logical name and an identifier, and maybe a name. -/
def readReference? (raw : Json) : Option Value := do
  let logicalName ← raw.member? "logical_name"
  let id ← (raw.member? "id").bind text?
  some (.reference logicalName (← Guid.parse? id) ((raw.member? "name").getD .null))

def readTagged? (tag : ValueTag) (payload : Json) : Except Breakdown (Option Value) :=
  match tag with
  | .reference => .ok (readReference? payload)
  | .option => payload.readInteger?.map (·.map .option)
  | .money => .ok ((Decimal.parse? payload.plain).map .money)
  | .decimal => .ok ((Decimal.parse? payload.plain).map fun d ↦ .number (.decimal d))
  | .guid => .ok ((payload.text?.bind Guid.parse?).map .guid)
  | .date => .ok ((payload.text?.bind Date.parse?).map .date)
  | .timestamp => .ok ((payload.text?.bind Timestamp.parse?).map .timestamp)

end Json

namespace Value

def decode (place : String) : Json → Except Fault Value
  | .null => .ok .null
  | .bool b => .ok (.number (.boolean b))
  | .int n => .ok (.number (.integer n))
  | .double x => .ok (.number (.double x))
  | .str s => .ok (.text s)
  | .obj [(tag, payload)] =>
    match ValueTag.ofText? tag with
    | none => .error (.document place ("unknown value type " ++ Text.quoted tag))
    | some t =>
      match payload.readTagged? t with
      | .error cause => .error (.breakdown cause)
      | .ok (some v) => .ok v
      | .ok none =>
        .error (.document place ("invalid " ++ tag ++ " payload " ++ payload.shown))
  | raw => .error (.document place ("unsupported value " ++ raw.shown))

end Value

end OrgService
