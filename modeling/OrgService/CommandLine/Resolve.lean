import OrgService.CommandLine.Option
import OrgService.Guid
import OrgService.Text.CaseFold

/-!
# Values of options

The value of an option is what its calls say; without any call it is read from its variable of
the environment, and failing that it is the default. The same library that finds the options reads
their values; what the theory of the program takes from it is named in `OptionAssumptions`.
-/

namespace OrgService.CommandLine

def yesWords : List String := ["1", "true", "t", "yes", "y", "on"]

/-- Words that mean no; nothing at all means no. -/
def noWords : List String := ["", "0", "false", "f", "no", "n", "off"]

/-- Reads a truth value; blanks around it and its case do not matter. -/
def readBoolean (text : String) : Except ValueProblem Bool :=
  let word := Text.lowerCase (Text.trimBlank text)
  if yesWords.contains word then .ok true
  else if noWords.contains word then .ok false
  else .error (.notABoolean text)

/-- Reads the name of one of some items. Both are folded, and blanks are left where they are. -/
def readNamed {α : Type} (items : List α) (name : α → String) (text : String) :
    Except ValueProblem α :=
  match items.find? fun x ↦ Text.caseFold (name x) == Text.caseFold text with
  | some x => .ok x
  | none => .error (.notAChoice text (items.map name))

def readInteger (least : Int) (text : String) : Except ValueProblem Int :=
  match Text.decimalInteger? text with
  | none => .error (.notAnInteger text)
  | some n => if n < least then .error (.outOfRange n least) else .ok n

def readGuid (text : String) : Except ValueProblem Guid :=
  match Guid.parse? (Text.trimBlank text) with
  | some g => .ok g
  | none => .error (.notAGuid (Text.trimBlank text))

def words (text : String) : List String :=
  (text.toList.splitBy fun a b ↦ Text.isBlank a == Text.isBlank b).filterMap fun cs ↦
    if cs.all Text.isBlank then none else some (String.ofList cs)

def Given.text? : Given → Option String
  | .text v => some v
  | _ => none

namespace Scanned

variable {ι : Type} [DecidableEq ι]

def textsOf (s : Scanned ι) (key : ι) : List String := (s.callsOf key).filterMap Given.text?

def blame {α : Type} (o : OptionSpec ι) (x : Except ValueProblem α) : Except UsageFault α :=
  x.mapError (.invalidValue o.hint)

def switch (s : Scanned ι) (env : Environment) (o : OptionSpec ι) (default : Bool) :
    Except UsageFault Bool :=
  match (s.callsOf o.key).getLast? with
  | some given => .ok (given == .on)
  | none =>
    match o.variableText? env with
    | some text => blame o (readBoolean text)
    | none => .ok default

def count (s : Scanned ι) (env : Environment) (o : OptionSpec ι) : Except UsageFault Int :=
  match s.callsOf o.key with
  | [] =>
    match o.variableText? env with
    | some text => blame o (readInteger 0 text)
    | none => .ok 0
  | calls => .ok calls.length

def value {α : Type} (s : Scanned ι) (env : Environment) (o : OptionSpec ι) (default : α)
    (read : String → Except ValueProblem α) : Except UsageFault α :=
  match (s.textsOf o.key).getLast? with
  | some text => blame o (read text)
  | none =>
    match o.variableText? env with
    | some text => blame o (read text)
    | none => .ok default

def values (s : Scanned ι) (env : Environment) (o : OptionSpec ι) : List String :=
  match s.textsOf o.key with
  | [] => ((o.variableText? env).map words).getD []
  | texts => texts

end Scanned

end OrgService.CommandLine
