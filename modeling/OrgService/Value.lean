import OrgService.Calendar.Iso
import OrgService.Fault
import OrgService.Text.CaseFold

/-!
# Attribute values

An attribute of a record is absent, explicitly null, or holds a value: a number, text, an
identifier, a date or timestamp, or one of the wrapped kinds. Wrapped values compare by what they
wrap, references by the identifier they point to, and text by its case folding.
-/

namespace OrgService

/-- The value of an attribute. A reference points to a record and may carry a display name; an
aliased value was read from a linked record and tells where it came from. -/
inductive Value where
  | absent
  | null
  | number (n : Number)
  | text (s : String)
  | guid (g : Guid)
  | date (d : Date)
  | timestamp (t : Timestamp)
  | reference (logicalName : Json) (id : Guid) (name : Json)
  | option (n : Int)
  | money (amount : Decimal)
  | aliased (entityName attr : String) (value : Value)
  deriving Repr, Inhabited

/-- What a value compares by. -/
inductive Comparable where
  | absent
  | null
  | number (n : Number)
  | text (folded : String)
  | guid (g : Guid)
  | date (d : Date)
  | timestamp (t : Timestamp)
  deriving DecidableEq, Repr

namespace Value

/-- Strips aliases, unwraps the value and folds the case of text. -/
def comparable : Value → Comparable
  | .absent => .absent
  | .null => .null
  | .number n => .number n
  | .text s => .text (Text.caseFold s)
  | .guid g => .guid g
  | .date d => .date d
  | .timestamp t => .timestamp t
  | .reference _ id _ => .guid id
  | .option n => .number (.integer n)
  | .money amount => .number (.decimal amount)
  | .aliased _ _ v => v.comparable

def isAbsent : Value → Bool
  | .absent => true
  | _ => false

/-- Neither absent nor null. -/
def isConcrete : Value → Bool
  | .absent => false
  | .null => false
  | _ => true

/-- Whether a value counts as present; an explicit null does if `nullIsPresent`. -/
def isPresent (nullIsPresent : Bool) : Value → Bool
  | .absent => false
  | .null => nullIsPresent
  | _ => true

def kind : Value → String
  | .absent => "_AbsentType"
  | .null => "NoneType"
  | .number (.boolean _) => "bool"
  | .number (.integer _) => "int"
  | .number (.double _) => "float"
  | .number (.decimal _) => "Decimal"
  | .text _ => "str"
  | .guid _ => "UUID"
  | .date _ => "date"
  | .timestamp _ => "datetime"
  | .reference .. => "EntityReference"
  | .option _ => "OptionSetValue"
  | .money _ => "Money"
  | .aliased .. => "AliasedValue"

end Value

namespace Comparable

def kind : Comparable → String
  | .absent => "_AbsentType"
  | .null => "NoneType"
  | .number (.boolean _) => "bool"
  | .number (.integer _) => "int"
  | .number (.double _) => "float"
  | .number (.decimal _) => "Decimal"
  | .text _ => "str"
  | .guid _ => "UUID"
  | .date _ => "date"
  | .timestamp _ => "datetime"

def qualifiedKind : Comparable → String
  | .number (.decimal _) => "decimal.Decimal"
  | .date _ => "datetime.date"
  | .timestamp _ => "datetime.datetime"
  | c => c.kind

def isNaN : Comparable → Bool
  | .number n => n.isNaN
  | _ => false

/-- The NaN that documents can hold is one and the same wherever it occurs, although it equals
nothing. -/
def isDocumentNaN : Comparable → Bool
  | .number (.double .nan) => true
  | _ => false

/-- Equality of numbers; comparing a signaling NaN breaks down. -/
def equalNumbers (m n : Number) : Except Breakdown Bool :=
  if (m.isSignaling || n.isSignaling) then .error .nanComparison
  else .ok (m.exact.compare? n.exact == some .eq)

/-- Equality of values of any kinds. -/
def equal : Comparable → Comparable → Except Breakdown Bool
  | .number m, .number n => equalNumbers m n
  | .timestamp s, .timestamp t => .ok (s.isAware == t.isAware && s.instant == t.instant)
  | a, b => .ok (a == b)

/-- The order of numbers: a NaN breaks down if a decimal is involved, and has no order else. -/
def compareNumbers (m n : Number) : Except Breakdown (Option Ordering) :=
  if (m.isNaN || n.isNaN) && (m.isDecimal || n.isDecimal) then .error .nanComparison
  else .ok (m.exact.compare? n.exact)

/-- The order of two values: `none` if their kinds have no common order; inside, `none` if they
have no order because of a NaN. -/
def compare? : Comparable → Comparable → Option (Except Breakdown (Option Ordering))
  | .number m, .number n => some (compareNumbers m n)
  | .text s, .text t => some (.ok (some (compare s t)))
  | .guid g, .guid h => some (.ok (some (compare g.toNat h.toNat)))
  | .date d, .date e => some (.ok (some (compare d.ordinal e.ordinal)))
  | .timestamp s, .timestamp t =>
    if s.isAware == t.isAware then some (.ok (some (compare s.instant t.instant))) else none
  | _, _ => none

end Comparable

end OrgService
