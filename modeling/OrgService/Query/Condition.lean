import OrgService.Query
import OrgService.Record
import OrgService.Text.Wildcard

/-!
# Conditions and filters

A condition must carry the number and kind of values that its operator needs. On a record, an
attribute that is absent or null passes only the test for null. A filter makes all its tests, at
every depth, and then combines their outcomes; parts without conditions do not count.
-/

namespace OrgService

namespace Operator

/-- How an operator uses the values of its condition. -/
inductive Arity where
  | noValue
  | manyValues
  | oneValue
  | oneText
  deriving DecidableEq, Repr

def arity : Operator → Arity
  | .null | .notNull => .noValue
  | .within | .notWithin => .manyValues
  | .like | .notLike | .beginsWith | .endsWith => .oneText
  | _ => .oneValue

end Operator

namespace Condition

def isText : Value → Bool
  | .text _ => true
  | _ => false

/-- What is wrong with the values of a condition, if anything. -/
def problem? (c : Condition) : Option ConditionProblem :=
  match c.operator.arity, c.values with
  | .noValue, [] => none
  | .noValue, _ => some .takesNoValues
  | .manyValues, [] => some .needsValue
  | .manyValues, _ => none
  | .oneValue, [_] => none
  | .oneText, [v] => if isText v then none else some .needsText
  | _, values => some (.needsOneValue values.length)

def check (c : Condition) : Except QueryFault Unit :=
  match c.problem? with
  | none => .ok ()
  | some problem => .error (.invalidCondition c.attr c.operator.text problem)

def coerce (actual : Comparable) (expected : Comparable) : Comparable :=
  match actual, expected with
  | .guid _, .text s => ((Guid.parse? s).map .guid).getD expected
  | _, _ => expected

/-- The first value of a condition. -/
def firstValue : List Comparable → Except Breakdown Comparable
  | [] => .error .outOfRange
  | v :: _ => .ok v

/-- Whether a value equals one of a list, up to the first that it equals or is the same NaN as. -/
def isOneOf (actual : Comparable) : List Comparable → Except Breakdown Bool
  | [] => .ok false
  | v :: vs => do
    if v.isDocumentNaN && actual.isDocumentNaN then .ok true
    else if ← v.equal actual then .ok true
    else isOneOf actual vs

/-- Whether an order satisfies an ordering operator; the absence of an order satisfies none. -/
def ordered (op : Operator) : Option Ordering → Bool
  | none => false
  | some o =>
    match op with
    | .greaterThan => o == .gt
    | .greaterEqual => o != .lt
    | .lessThan => o == .lt
    | _ => o != .gt

def compareWith (c : Condition) (actual expected : Comparable) : Except Fault Bool :=
  match actual.compare? expected with
  | none =>
    .error (.query (.invalidCondition c.attr c.operator.text
      (.incomparable actual.kind expected.kind)))
  | some order => (order.map (ordered c.operator)).mapError .breakdown

def affixTest (atEnd : Bool) (text : String) (expected : Comparable) : Except Breakdown Bool :=
  match expected with
  | .text s =>
    .ok (if atEnd then s.toList.isSuffixOf text.toList else s.toList.isPrefixOf text.toList)
  | other => .error (.notText atEnd other.qualifiedKind)

def patternTest (text : String) (expected : Comparable) : Except Breakdown Bool :=
  match expected with
  | .text s => .ok (Text.likePattern s.toList text.toList)
  | other => .error (.notSequence other.qualifiedKind)

/-- Makes a test of a text; it fails on all that is no text. -/
def textTest (op : Operator) (actual : Comparable) (values : List Comparable) :
    Except Breakdown Bool :=
  match actual with
  | .text s => do
    let expected ← firstValue values
    match op with
    | .beginsWith => affixTest false s expected
    | .endsWith => affixTest true s expected
    | .like => patternTest s expected
    | _ => (patternTest s expected).map (!·)
  | _ => .ok false

/-- Makes the test of a condition on a value that is neither absent nor null. -/
def holdsOn (c : Condition) (value : Value) : Except Fault Bool :=
  let actual := value.comparable
  let values := c.values.map fun v ↦ coerce actual v.comparable
  match c.operator with
  | .null => .ok false
  | .notNull => .ok true
  | .equal => (do actual.equal (← firstValue values)).mapError .breakdown
  | .notEqual => (do .ok (!(← actual.equal (← firstValue values)))).mapError .breakdown
  | .within => (isOneOf actual values).mapError .breakdown
  | .notWithin => ((isOneOf actual values).map (!·)).mapError .breakdown
  | .greaterThan | .greaterEqual | .lessThan | .lessEqual =>
    match firstValue values with
    | .error cause => .error (.breakdown cause)
    | .ok expected => c.compareWith actual expected
  | op => (textTest op actual values).mapError .breakdown

/-- The value of the attribute that a name refers to; only texts name attributes. -/
def lookup (r : Record) : Json → Except Breakdown Value
  | .str name => .ok (r.lookup name)
  | name => if name.isNameable then .ok .absent else .error (.notNameable name.kind)

def holds (r : Record) (c : Condition) : Except Fault Bool :=
  match lookup r c.attr with
  | .error cause => .error (.breakdown cause)
  | .ok value =>
    if value.isConcrete then c.holdsOn value else .ok (c.operator == .null)

end Condition

namespace Connective

def combine : Connective → List Bool → Bool
  | .and, outcomes => outcomes.all id
  | .or, outcomes => outcomes.any id

end Connective

namespace Filter

mutual

/-- Checks every condition of a filter, its own before those of nested filters. -/
def check : Filter → Except QueryFault Unit
  | ⟨_, conditions, filters⟩ => do
    conditions.forM Condition.check
    checkEach filters

def checkEach : List Filter → Except QueryFault Unit
  | [] => .ok ()
  | f :: fs => do
    f.check
    checkEach fs

end

mutual

/-- The names of the attributes that a filter tests, in order and with repetitions. -/
def attributes : Filter → List Json
  | ⟨_, conditions, filters⟩ => conditions.map Condition.attr ++ attributesEach filters

def attributesEach : List Filter → List Json
  | [] => []
  | f :: fs => f.attributes ++ attributesEach fs

end

mutual

def holds (r : Record) : Filter → Except Fault Bool
  | ⟨connective, conditions, filters⟩ =>
    if conditions.isEmpty && allEmpty filters then .ok true
    else do
      let own ← conditions.mapM (Condition.holds r)
      let nested ← holdsEach r filters
      .ok (connective.combine (own ++ nested))

def holdsEach (r : Record) : List Filter → Except Fault (List Bool)
  | [] => .ok []
  | f :: fs => do
    if f.isEmpty then holdsEach r fs
    else do
      let outcome ← holds r f
      let outcomes ← holdsEach r fs
      .ok (outcome :: outcomes)

end

end Filter

end OrgService
