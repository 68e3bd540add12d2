import OrgService.Guid
import OrgService.Json.Reader

/-!
# Faults

Every operation that can fail tells why as a `Fault`. The faults of queries form a family of
their own: a query either has an answer or a fault of that family, unless a value breaks down in
a comparison. Each fault has one message.
-/

namespace OrgService

/-- What is wrong with the values of a condition. -/
inductive ConditionProblem where
  | takesNoValues
  | needsValue
  | needsOneValue (given : Nat)
  | needsText
  | incomparable (left right : String)
  | other (reason : String)
  deriving DecidableEq, Repr

def ConditionProblem.message : ConditionProblem → String
  | .takesNoValues => "takes no values"
  | .needsValue => "needs at least one value"
  | .needsOneValue given => "needs exactly one value, got " ++ toString given
  | .needsText => "needs a text value"
  | .incomparable left right => "cannot compare " ++ left ++ " with " ++ right
  | .other reason => reason

/-- Why a query cannot be evaluated. Names are documents, since a query may be read from one. -/
inductive QueryFault where
  | unknownEntityType (name : Json)
  | unknownAttribute (entityName attr : Json)
  | invalidCondition (attr : Json) (operator : String) (problem : ConditionProblem)
  | duplicateAlias (aliasName : Json)
  | negativeTopCount (n : Int)
  | misplacedLink (aliasName startsFrom attachedTo : Json)
  | incomparableOrder (attr : Json)
  | other (message : String)
  deriving Repr

def QueryFault.message : QueryFault → String
  | .unknownEntityType name =>
    "The entity with a name = '" ++ name.plain ++ "' was not found in the store."
  | .unknownAttribute entityName attr =>
    "'" ++ entityName.plain ++ "' entity doesn't contain attribute with Name = '" ++
      attr.plain ++ "'."
  | .invalidCondition attr operator problem =>
    "Condition '" ++ attr.plain ++ " " ++ operator ++ "' is invalid: " ++ problem.message
  | .duplicateAlias aliasName =>
    "Table alias '" ++ aliasName.plain ++ "' is not unique within the query."
  | .negativeTopCount n => "top_count must be >= 0, got " ++ toString n
  | .misplacedLink aliasName startsFrom attachedTo =>
    "Link '" ++ aliasName.plain ++ "' starts from '" ++ startsFrom.plain ++
      "' but is attached to '" ++ attachedTo.plain ++ "'"
  | .incomparableOrder attr =>
    "Cannot order by '" ++ attr.plain ++ "': values are not comparable"
  | .other message => message

/-- Why a record is malformed. -/
inductive RecordFault where
  | badLogicalName (shown : String)
  | noId (logicalName : String)
  | badAttributeName (logicalName : String) (name : Json)
  | other (logicalName reason : String)
  deriving Repr

namespace RecordFault

def logicalName : RecordFault → String
  | .badLogicalName shown => shown
  | .noId name => name
  | .badAttributeName name _ => name
  | .other name _ => name

def reason : RecordFault → String
  | .badLogicalName _ => "logical name must be a non-empty string"
  | .noId _ => "cannot reference without id"
  | .badAttributeName _ name =>
    "attribute name " ++ name.shown ++ " is not a non-empty string"
  | .other _ reason => reason

def message (e : RecordFault) : String :=
  "Invalid entity '" ++ e.logicalName ++ "': " ++ e.reason

end RecordFault

/-- A failure of a value or a document inside an operation that has no fault of its own for it. -/
inductive Breakdown where
  /-- A signaling NaN was compared, or a NaN was ordered. -/
  | nanComparison
  /-- A signaling NaN was used as a join key. -/
  | nanKey
  /-- A list or object was used as a name. -/
  | notNameable (kind : String)
  /-- Something other than a list, an object or a text was read as a sequence. -/
  | notSequence (kind : String)
  /-- A test for the start or the end of a text met a condition value that is no text. -/
  | notText (atEnd : Bool) (kind : String)
  /-- A condition lacks the value that its operator needs, or a row does not exist. -/
  | outOfRange
  /-- Names of these kinds have no order. -/
  | unorderedNames (left right : String)
  /-- An infinity was read as an integer. -/
  | infiniteInteger
  /-- An integer literal has too many digits. -/
  | longInteger (digits : Nat)
  /-- A text that must be an identifier is none. -/
  | badGuid (problem : Guid.Malformed)
  deriving Repr

def Breakdown.message : Breakdown → String
  | .nanComparison => "[<class 'decimal.InvalidOperation'>]"
  | .nanKey => "Cannot hash a signaling NaN value."
  | .notNameable kind => "unhashable type: '" ++ kind ++ "'"
  | .notSequence kind => "'" ++ kind ++ "' object is not iterable"
  | .notText atEnd kind =>
    (if atEnd then "endswith" else "startswith") ++
      " first arg must be str or a tuple of str, not " ++ kind
  | .outOfRange => "list index out of range"
  | .unorderedNames left right =>
    "'<' not supported between instances of '" ++ left ++ "' and '" ++ right ++ "'"
  | .infiniteInteger => "cannot convert float infinity to integer"
  | .longInteger digits => (Json.Problem.longInteger digits).message
  | .badGuid problem => problem.message

/-- What the handler of a request may depend on besides the request. -/
inductive Dependency where
  | store
  | nullPolicy
  deriving DecidableEq, Repr

namespace Dependency

def all : List Dependency := [.nullPolicy, .store]

def name : Dependency → String
  | .store => "store"
  | .nullPolicy => "null_policy"

def listed : List Dependency → String
  | [] => ""
  | [d] => Text.quoted d.name
  | [d, e] => Text.quoted d.name ++ " and " ++ Text.quoted e.name
  | d :: ds => Text.quoted d.name ++ ", " ++ listed ds

end Dependency

/-- Why a handler gave no answer to a request it was called for. -/
inductive HandlerFault where
  /-- The handler was called without what it depends on. -/
  | unbound (handler : String) (missing : List Dependency)
  /-- The handler gave up. -/
  | failed (message : String)
  deriving Repr

def HandlerFault.message : HandlerFault → String
  | .unbound handler missing =>
    handler ++ "() missing " ++ toString missing.length ++ " required positional argument" ++
      (if missing.length = 1 then "" else "s") ++ ": " ++ Dependency.listed missing
  | .failed message => message

/-- Why an operation failed. -/
inductive Fault where
  | recordNotFound (entityName : Json) (id : Option Guid)
  | duplicateSeed (entityName : String) (id : Guid)
  | query (fault : QueryFault)
  | record (fault : RecordFault)
  /-- A document that describes nothing, with the path to the offending element. -/
  | document (place reason : String)
  /-- A setting of the environment with an unusable value. -/
  | setting (name value expected : String)
  | noHandler (request : String)
  | handler (fault : HandlerFault)
  | unknownGenerator (name : String)
  | breakdown (cause : Breakdown)
  deriving Repr

namespace Fault

def guidText : Option Guid → String
  | some g => g.toString
  | none => "None"

def message : Fault → String
  | .recordNotFound entityName id =>
    entityName.plain ++ " With Id = " ++ guidText id ++ " Does Not Exist"
  | .duplicateSeed entityName id =>
    "Record " ++ entityName ++ " (" ++ id.toString ++ ") has already been seeded."
  | .query fault => fault.message
  | .record fault => fault.message
  | .document place reason => place ++ ": " ++ reason
  | .setting name value expected =>
    name ++ "=" ++ Text.quoted value ++ " is invalid; expected " ++ expected
  | .noHandler request => "No handler found for request " ++ request
  | .handler fault => fault.message
  | .unknownGenerator name => "unknown id generator: " ++ Text.quoted name
  | .breakdown cause => cause.message

/-- Whether the fault says that a query cannot be evaluated. -/
def isQueryFault : Fault → Bool
  | .query _ => true
  | _ => false

end Fault

end OrgService
