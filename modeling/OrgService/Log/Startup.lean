import OrgService.Log.Console
import OrgService.Log.FlightRecorder
import OrgService.Log.Override
import OrgService.NullPolicy

/-!
# Logging of a run

A run is logged to the console and, if a path is given, to a flight recorder. The first entries
tell how the run is set up.
-/

namespace OrgService.Log

/-- How a run is logged. -/
structure Options where
  level : Int
  debugMode : Bool
  path : Option String
  capacity : Int
  forceFlush : Bool
  overrides : Overrides

namespace Options

def console (o : Options) : Console := Console.configure o.level o.debugMode

def recorder? (o : Options) : Option FlightRecorder :=
  o.path.map fun _ ↦ FlightRecorder.new o.capacity warning o.forceFlush

def handlers (o : Options) : List (String × Int) :=
  ("RichHandler", o.console.level) ::
    match o.path with
    | some _ => [("MemoryHandler", 0)]
    | none => []

def switchText (b : Bool) : String := if b then "ON" else "OFF"

def truthText (b : Bool) : String := if b then "True" else "False"

def overridesText (o : Options) : String :=
  if o.overrides.entries.isEmpty then "<none>"
  else "\x7b" ++ ", ".intercalate (o.overrides.entries.map fun e ↦
    Text.quoted e.1 ++ ": " ++ Text.quoted (levelName e.2)) ++ "\x7d"

def recorderEntries (o : Options) : List Entry :=
  match o.path with
  | none => []
  | some path =>
    [.diagnostic .program ("Flight recorder: path=" ++ path ++ ", capacity=" ++
      toString o.capacity ++ ", flush_on_close=" ++ truthText o.forceFlush)]

def openingEntry (o : Options) (version : String) : Entry :=
  ⟨info, .program, "FAKEORG " ++ version ++ ": console=" ++ levelName o.level ++
    ", flight-recorder=" ++ switchText o.path.isSome⟩

/-- The entries about the set-up of a run that are not about the machine it runs on. -/
def settingEntries (o : Options) (policy : String) : List Entry :=
  .diagnostic .program ("Null policy: " ++ policy) ::
    .diagnostic .program ("Handlers: [" ++
      ", ".intercalate (o.handlers.map fun h ↦ Text.quoted h.1) ++ "]") ::
    o.recorderEntries ++
    [.diagnostic .program ("Per-logger overrides: " ++ o.overridesText)]

end Options

end OrgService.Log
