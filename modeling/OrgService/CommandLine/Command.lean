import OrgService.CommandLine.Program
import OrgService.Context
import OrgService.Document.Query
import OrgService.Document.Seed
import OrgService.Json.Writer
import OrgService.Text.Lines

/-!
# Commands

Both commands seed a new organization from a file and read from it: one retrieves a record by its
identity, the other the rows of a query. The result is written as a document.
-/

namespace OrgService.CommandLine

/-- The options of a command. -/
inductive CommandOption where
  | columns
  | allColumns
  | help
  deriving DecidableEq, Repr

/-- The commands. -/
inductive Command where
  | retrieve
  | query
  deriving DecidableEq, Repr

namespace Command

def all : List Command := [.retrieve, .query]

def name : Command → String
  | .retrieve => "retrieve"
  | .query => "query"

end Command

namespace CommandOption

def spec : CommandOption → OptionSpec CommandOption
  | .columns =>
    ⟨.columns, .values, ["--column", "-c"], [], ["FAKEORG_RETRIEVE_COLUMNS"], false, false⟩
  | .allColumns =>
    ⟨.allColumns, .switch, ["--all-columns"], [], ["FAKEORG_RETRIEVE_ALL_COLUMNS"], false, false⟩
  | .help => ⟨.help, .switch, ["--help", "-h"], [], [], false, true⟩

end CommandOption

namespace Command

def grammar : Command → Grammar CommandOption
  | .retrieve => ⟨[.columns, .allColumns, .help].map CommandOption.spec, true⟩
  | .query => ⟨[CommandOption.help].map CommandOption.spec, true⟩

def helpText : Command → String
  | .retrieve =>
    "Usage: fakeorg retrieve [OPTIONS] SEED_FILE ENTITY_NAME ENTITY_ID\n\n" ++
      "  Retrieve one record by ENTITY_NAME and ENTITY_ID from SEED_FILE.\n"
  | .query =>
    "Usage: fakeorg query [OPTIONS] SEED_FILE QUERY_FILE\n\n" ++
      "  Evaluate the query in QUERY_FILE against the records in SEED_FILE.\n"

end Command

def requireArgument (name : String) (arguments : List String) (index : Nat) :
    Except UsageFault String :=
  match arguments[index]? with
  | some a => .ok a
  | none => .error (.missingArgument name)

def blameArgument {α : Type} (name : String) (x : Except ValueProblem α) : Except UsageFault α :=
  x.mapError (.invalidValue ("'" ++ name ++ "'"))

/-- A file that has been opened: what messages call it, and its text. -/
structure OpenFile where
  title : String
  content : String

def openArgument (files : Files) (name : String) (arguments : List String) (index : Nat) :
    Except UsageFault OpenFile := do
  let path ← requireArgument name arguments index
  let content ← blameArgument name (files.read path)
  .ok ⟨Files.title path, content⟩

def noMore (arguments : List String) (count : Nat) : Except UsageFault Unit :=
  match arguments.drop count with
  | [] => .ok ()
  | extra => .error (.extraArguments extra)

/-- How the program ends when the service refuses: its own faults are told, others escape. -/
def serviceEnding (fault : Fault) : Ending :=
  match fault with
  | .recordNotFound .. => .failure fault.message
  | .duplicateSeed .. => .failure fault.message
  | .query _ => .failure fault.message
  | _ => .breakdown fault

def documentEnding (title : String) (fault : Fault) : Ending :=
  match fault with
  | .document .. => .failure (title ++ ": " ++ fault.message)
  | _ => .breakdown fault

/-- How the program ends when a file holds no document. -/
def malformedEnding (title : String) (e : Json.ReadError) : Ending :=
  match e.problem with
  | .longInteger digits => .breakdown (.breakdown (.longInteger digits))
  | _ => .failure (title ++ ": invalid JSON (" ++ e.message ++ ")")

def readDocument (file : OpenFile) : Session Json :=
  ⟨[], (Json.parse (String.ofList (Text.unifyBreaks file.content.toList))).mapError
    (malformedEnding file.title)⟩

/-- The empty context that the settings of the program ask for. -/
def ProgramSettings.context (p : ProgramSettings) (streams : IdStreams) : Context :=
  ⟨Store.new (p.idScheme.generator streams) p.rejectDuplicates, p.nullPolicy⟩

/-- Seeds a context from a file. -/
def readSeed (context : Context) (file : OpenFile) : Session Context := do
  let document ← readDocument file
  let records ← Session.traced (Traced.silent (Record.decodeSeed document))
    (documentEnding file.title)
  if records.isEmpty then
    Session.write (.notice .warning (file.title ++ " holds no records."))
  let (context, seeded) := context.seed records
  let _ ← Session.traced seeded serviceEnding
  Session.write (.entry ⟨Log.info, .command,
    "Seeded " ++ toString records.length ++ " record(s) from " ++ file.title⟩)
  pure context

def writeResult (document : Json) : Session Unit :=
  Session.write (.output (document.pretty 0 ++ "\n"))

def writeResponse : Response → Session Unit
  | .record r => writeResult r.encode
  | .collection rows => do
    writeResult rows.encode
    Session.write (.notice .success (toString rows.records.length ++ " row(s) returned."))

/-- Shows the help of a command if it is asked for. -/
def offerHelp (c : Command) (s : Scanned CommandOption) : Session Unit := do
  if !(s.callsOf .help).isEmpty then
    Session.write (.output c.helpText)
    Session.finish .done

def runRetrieve (p : ProgramSettings) (around : Surroundings) (s : Scanned CommandOption) :
    Session Unit := do
  let file ← Session.checked (openArgument around.files "SEED_FILE" s.others 0)
  let entityName ← Session.checked (requireArgument "ENTITY_NAME" s.others 1)
  let idText ← Session.checked (requireArgument "ENTITY_ID" s.others 2)
  let id ← Session.checked (blameArgument "ENTITY_ID" (readGuid idText))
  let all ← Session.checked (s.switch around.env (CommandOption.spec .allColumns) false)
  Session.checked (noMore s.others 3)
  let columns :=
    if all then ColumnSet.every
    else ColumnSet.ofList (s.values around.env (CommandOption.spec .columns)) false
  let context ← readSeed (p.context around.streams) file
  let response ← Session.traced (context.retrieve (.str entityName) (some id) columns) serviceEnding
  writeResponse response

def runQuery (p : ProgramSettings) (around : Surroundings) (s : Scanned CommandOption) :
    Session Unit := do
  let file ← Session.checked (openArgument around.files "SEED_FILE" s.others 0)
  let queryFile ← Session.checked (openArgument around.files "QUERY_FILE" s.others 1)
  Session.checked (noMore s.others 2)
  let context ← readSeed (p.context around.streams) file
  let document ← readDocument queryFile
  let query ← Session.traced (Traced.silent (Query.decode document))
    (documentEnding queryFile.title)
  let response ← Session.traced (context.retrieveMultiple query) serviceEnding
  writeResponse response

def Command.run (c : Command) (p : ProgramSettings) (around : Surroundings)
    (arguments : List String) : Session Unit := do
  let s ← Session.checked (c.grammar.scan arguments)
  offerHelp c s
  match c with
  | .retrieve => runRetrieve p around s
  | .query => runQuery p around s

end OrgService.CommandLine
