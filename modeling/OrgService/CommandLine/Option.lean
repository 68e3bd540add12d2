import OrgService.CommandLine.Usage
import OrgService.Settings

/-!
# Options

An option is called by one of its names. A long name starts with two dashes; a short one is a
dash and a character, and several short ones may stand together. An option that takes a value
finds it after an equals sign or in the next argument; a short one also finds it in the rest of
its own argument. What is not given may come from a variable of the environment.

The program leaves this to a library. Written out here is how the library does it.
-/

namespace OrgService.CommandLine

/-- What an option does when it is called. -/
inductive OptionKind where
  /-- Is turned on or off. -/
  | switch
  /-- Counts how often it is called. -/
  | count
  /-- Takes a value; the last one counts. -/
  | value
  /-- Takes a value each time it is called. -/
  | values
  deriving DecidableEq, Repr

/-- An option: the names that call it, those that turn it off, and the variables that stand in for
it in the order in which they are consulted. -/
structure OptionSpec (ι : Type) where
  key : ι
  kind : OptionKind
  names : List String
  opposites : List String
  variableNames : List String
  showsVariables : Bool
  eager : Bool

namespace OptionSpec

variable {ι : Type}

def takesValue (o : OptionSpec ι) : Bool := o.kind == .value || o.kind == .values

def hint (o : OptionSpec ι) : String :=
  " / ".intercalate (o.names.map fun n ↦ "'" ++ n ++ "'") ++
    if o.showsVariables && !o.variableNames.isEmpty then
      " (env var: '" ++ ", ".intercalate o.variableNames ++ "')"
    else ""

/-- The text of the first variable of an option that is set; an empty one counts as unset. -/
def variableText? (o : OptionSpec ι) (env : Environment) : Option String :=
  o.variableNames.findSome? fun v ↦ (env v).filter (· != "")

end OptionSpec

/-- One call of an option. -/
inductive Given where
  | on
  | off
  | text (value : String)
  deriving DecidableEq, Repr

/-- The options called in order, and the other arguments. -/
structure Scanned (ι : Type) where
  calls : List (ι × Given)
  others : List String

namespace Scanned

variable {ι : Type}

def callsOf [DecidableEq ι] (s : Scanned ι) (key : ι) : List Given :=
  s.calls.filterMap fun c ↦ if c.1 = key then some c.2 else none

def addCall (c : ι × Given) (s : Scanned ι) : Scanned ι := { s with calls := c :: s.calls }

def addOther (argument : String) (s : Scanned ι) : Scanned ι :=
  { s with others := argument :: s.others }

end Scanned

/-- The options of a command; whether other arguments may stand among them. -/
structure Grammar (ι : Type) where
  options : List (OptionSpec ι)
  mixed : Bool

namespace Grammar

variable {ι : Type}

def longNames (g : Grammar ι) : List String :=
  g.options.flatMap fun o ↦ (o.names ++ o.opposites).filter fun n ↦ "--".toList.isPrefixOf n.toList

/-- The option with a name and what calling it without a value means. -/
def find? (g : Grammar ι) (name : String) : Option (OptionSpec ι × Given) :=
  g.options.findSome? fun o ↦
    if o.names.contains name then some (o, .on)
    else if o.opposites.contains name then some (o, .off)
    else none

/-- The option called by an argument in full, and the value after an equals sign. -/
def long? (g : Grammar ι) (argument : String) : Option (OptionSpec ι × Given × Option String) :=
  let (name, rest) := argument.toList.span (· != '=')
  let name := String.ofList name
  if g.longNames.contains name then
    (g.find? name).map fun (o, given) ↦
      (o, given, match rest with
        | [] => none
        | _ :: value => some (String.ofList value))
  else none

/-- The calls that the short names of an argument make, and whether the last of them finds its
value in the next argument. -/
def shortCalls (g : Grammar ι) :
    List Char → Except UsageFault (List (ι × Given) × Option (ι × String))
  | [] => .ok ([], none)
  | c :: cs =>
    let name := String.ofList ['-', c]
    match g.find? name with
    | none => .error (.noSuchOption name [])
    | some (o, given) =>
      if o.takesValue then
        if cs.isEmpty then .ok ([], some (o.key, name))
        else .ok ([(o.key, .text (String.ofList cs))], none)
      else (shortCalls g cs).map fun (calls, open?) ↦ ((o.key, given) :: calls, open?)

/-- What one argument that starts with a dash means: calls, and an option that is still without
its value, with the name it was called by. -/
def calls (g : Grammar ι) (argument : String) :
    Except UsageFault (List (ι × Given) × Option (ι × String)) :=
  match g.long? argument with
  | some (o, given, value) =>
    match o.takesValue, value with
    | true, some v => .ok ([(o.key, .text v)], none)
    | true, none => .ok ([], some (o.key, argument))
    | false, some _ => .error (.takesNoValue (String.ofList (argument.toList.takeWhile (· != '='))))
    | false, none => .ok ([(o.key, given)], none)
  | none =>
    let name := String.ofList (argument.toList.takeWhile (· != '='))
    if "--".toList.isPrefixOf argument.toList then
      .error (.noSuchOption name (Text.closeMatches name g.longNames))
    else g.shortCalls (argument.toList.drop 1)

def callsOptions (argument : String) : Bool :=
  argument.toList.head? == some '-' && argument.length != 1

/-- Reads arguments: `awaiting` is an option that is still without its value. -/
def scanFrom (g : Grammar ι) : (awaiting : Option (ι × String)) → List String →
    Except UsageFault (Scanned ι)
  | none, [] => .ok ⟨[], []⟩
  | some (_, name), [] => .error (.needsValue name)
  | some (key, _), a :: rest => (scanFrom g none rest).map (Scanned.addCall (key, .text a))
  | none, a :: rest =>
    if a = "--" then .ok ⟨[], rest⟩
    else if callsOptions a then
      match g.calls a with
      | .error fault => .error fault
      | .ok (calls, awaiting) =>
        (scanFrom g awaiting rest).map fun s ↦ { s with calls := calls ++ s.calls }
    else if g.mixed then (scanFrom g none rest).map (Scanned.addOther a)
    else .ok ⟨[], a :: rest⟩

def scan (g : Grammar ι) (arguments : List String) : Except UsageFault (Scanned ι) :=
  g.scanFrom none arguments

/-- The order in which options are looked at: eager ones first, those called before the others,
in the order of their first calls and then in that of the grammar. -/
def order [DecidableEq ι] (g : Grammar ι) (s : Scanned ι) : List (OptionSpec ι) :=
  let called := (firstKeys s.calls).filterMap fun k ↦ g.options.find? fun o ↦ o.key = k
  let uncalled := g.options.filter fun o ↦ !s.calls.any fun c ↦ c.1 = o.key
  let all := called ++ uncalled
  all.filter (·.eager) ++ all.filter (!·.eager)
where
  firstKeys : List (ι × Given) → List ι
    | [] => []
    | c :: cs => c.1 :: (firstKeys cs).filter (· ≠ c.1)

end Grammar

end OrgService.CommandLine
