import OrgService.CommandLine.Command

/-!
# Runs of the program

A run reads the options of the program, sets up logging and hands over to a command. Its outcome
is the exit code, what is written to either stream, and the file of the flight recorder.
-/

namespace OrgService.CommandLine

def version : String := "0.1.0"

def helpText : String :=
  "Usage: fakeorg [OPTIONS] COMMAND [ARGS]...\n\n" ++
    "  Seed an in-memory organization with records from a JSON file, then retrieve\n" ++
    "  single records or run query expressions.\n\n" ++
    "Commands:\n" ++
    "  retrieve  Retrieve one record by ENTITY_NAME and ENTITY_ID from SEED_FILE.\n" ++
    "  query     Evaluate the query in QUERY_FILE against the records in SEED_FILE.\n"

def answerAndEnd (text : String) : Session Unit := do
  Session.write (.output text)
  Session.finish .done

def lookAt (s : Scanned ProgramOption) (around : Surroundings) :
    List (OptionSpec ProgramOption) → Session Unit
  | [] => pure ()
  | o :: rest => do
    let called := !(s.callsOf o.key).isEmpty
    match o.key with
    | .version => if called then answerAndEnd ("fakeorg, version " ++ version ++ "\n")
    | .help => if called then answerAndEnd helpText
    | key => Session.checked (ProgramSettings.check s around key)
    lookAt s around rest

/-- The command that the first of the other arguments names, and its own arguments. -/
def chooseCommand : List String → Except UsageFault (Command × List String)
  | [] => .error .missingCommand
  | name :: arguments =>
    match Command.all.find? fun c ↦ c.name == name with
    | some c => .ok (c, arguments)
    | none => do
      let _ ← if Grammar.callsOptions name then ProgramOption.grammar.scan (name :: arguments)
        else .ok ⟨[], []⟩
      .error (.noSuchCommand name (Text.closeMatches name (Command.all.map Command.name)))

def prepare (around : Surroundings) (arguments : List String) :
    Session (ProgramSettings × Command × List String) := do
  let s ← Session.checked (ProgramOption.grammar.scan arguments)
  lookAt s around (ProgramOption.grammar.order s)
  let (command, rest) ← Session.checked (chooseCommand s.others)
  let settings ← Session.checked (ProgramSettings.resolve s around)
  pure (settings, command, rest)

/-- What has come of a run; without settings it ended before logging was set up. -/
structure Outcome where
  settings : Option ProgramSettings
  reports : List Report
  ending : Option Ending

def run (around : Surroundings) (arguments : List String) : Outcome :=
  let preparation := prepare around arguments
  match preparation.result with
  | .error e => ⟨none, preparation.reports, some e⟩
  | .ok (settings, command, rest) =>
    let body := do
      Session.writeAll (settings.startup version around.machine)
      command.run settings around rest
    ⟨some settings, preparation.reports ++ body.reports,
      match body.result with
      | .ok () => none
      | .error e => some e⟩

namespace Outcome

/-- Zero for success, two if an argument made no sense, else one. -/
def exitCode (o : Outcome) : Nat :=
  match o.ending with
  | none => 0
  | some .done => 0
  | some (.failure _) => 1
  | some (.usage _) => 2
  | some (.breakdown _) => 1

def stdout (o : Outcome) : String :=
  String.join (o.reports.map fun r ↦
    match r with
    | .output text => text
    | _ => "")

def entries (o : Outcome) : List Log.Entry :=
  match o.settings with
  | none => []
  | some p => o.reports.filterMap fun r ↦
    match r with
    | .entry e =>
      if Log.effectiveLevel p.logging.overrides e.channel.name ≤ e.level then some e else none
    | _ => none

/-- The flight recorder of the run after it was closed, with the path of its file. -/
def recorder? (o : Outcome) (now : Int) : Option (String × Log.FlightRecorder) := do
  let p ← o.settings
  let path ← p.logging.path
  let recorder ← p.logging.recorder?
  some (path, (recorder.handleAll (o.entries.map (Log.Event.ofEntry now))).close)

/-- The line of the console for an entry, if the loggers and the console let it through. -/
def consoleLine (o : Outcome) (now : Int) (e : Log.Entry) : String :=
  match o.settings with
  | none => ""
  | some p =>
    let event := Log.Event.ofEntry now e
    if Log.effectiveLevel p.logging.overrides e.channel.name ≤ e.level &&
        p.logging.console.shows event then
      p.logging.console.format event ++ "\n"
    else ""

def endingText : Ending → String
  | .done => ""
  | .failure message => "Error: " ++ message ++ "\n"
  | .usage fault =>
    "Usage: fakeorg [OPTIONS] COMMAND [ARGS]...\n\nError: " ++ fault.message ++ "\n"
  | .breakdown fault => fault.message ++ "\n"

/-- What is written to the standard error; `unicode` tells whether it can show every symbol. -/
def stderr (o : Outcome) (now : Int) (unicode : Bool) : String :=
  String.join (o.reports.map fun r ↦
    match r with
    | .entry e => o.consoleLine now e
    | .notice kind message => kind.text unicode message
    | .output _ => "") ++
    (o.ending.map endingText).getD ""

end Outcome

end OrgService.CommandLine
