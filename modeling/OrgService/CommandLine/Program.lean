import OrgService.CommandLine.Resolve
import OrgService.CommandLine.Session
import OrgService.Log.Startup

/-!
# Options of the program

The options before the command set up logging, the null policy, the treatment of repeated
identities and the generator of identifiers.
-/

namespace OrgService.CommandLine

/-- The options of the program. -/
inductive ProgramOption where
  | color
  | time
  | version
  | help
  | verbose
  | quiet
  | debugMode
  | logPath
  | capacity
  | flightRecorder
  | forceFlush
  | loggerLevels
  | nullPolicy
  | rejectDuplicates
  | idScheme
  deriving DecidableEq, Repr

namespace ProgramOption

def spec : ProgramOption → OptionSpec ProgramOption
  | .color =>
    ⟨.color, .switch, ["--color", "--ansi"], ["--no-color", "--no-ansi"], ["FAKEORG_COLOR"], true,
      true⟩
  | .time => ⟨.time, .switch, ["--time"], ["--no-time"], ["FAKEORG_TIME"], true, true⟩
  | .version => ⟨.version, .switch, ["--version"], [], [], false, true⟩
  | .help => ⟨.help, .switch, ["--help", "-h"], [], [], false, true⟩
  | .verbose =>
    ⟨.verbose, .count, ["--verbose", "-v"], [], ["FAKEORG_VERBOSE_COUNT"], false, false⟩
  | .quiet => ⟨.quiet, .count, ["--quiet", "-q"], [], ["FAKEORG_QUIET_COUNT"], false, false⟩
  | .debugMode =>
    ⟨.debugMode, .switch, ["--debug"], ["--no-debug"], ["FAKEORG_DEBUG"], false, false⟩
  | .logPath => ⟨.logPath, .value, ["--log-path"], [], ["FAKEORG_LOG_PATH"], true, false⟩
  | .capacity =>
    ⟨.capacity, .value, ["--flight-recorder-capacity"], [], ["FAKEORG_FLIGHT_RECORDER_CAPACITY"],
      true, false⟩
  | .flightRecorder =>
    ⟨.flightRecorder, .switch, ["--flight-recorder"], ["--no-flight-recorder"],
      ["FAKEORG_FLIGHT_RECORDER"], true, false⟩
  | .forceFlush =>
    ⟨.forceFlush, .switch, ["--force-flush"], ["--no-force-flush"], ["FAKEORG_FORCE_FLUSH"], true,
      false⟩
  | .loggerLevels =>
    ⟨.loggerLevels, .values, ["-L", "--logger-level"], [], ["FAKEORG_LOGGER_LEVELS"], true, false⟩
  | .nullPolicy =>
    ⟨.nullPolicy, .value, ["--null-policy"], [], [Settings.nullPolicyVariable], true, false⟩
  | .rejectDuplicates =>
    ⟨.rejectDuplicates, .switch, ["--reject-duplicates"], ["--allow-duplicates"],
      [Settings.rejectDuplicatesVariable, "FAKEORG_REJECT_DUPLICATES"], true, false⟩
  | .idScheme =>
    ⟨.idScheme, .value, ["--id-generator"], [], [Settings.idSchemeVariable], true, false⟩

def all : List ProgramOption :=
  [.verbose, .quiet, .debugMode, .logPath, .capacity, .flightRecorder, .forceFlush, .loggerLevels,
    .nullPolicy, .rejectDuplicates, .idScheme, .color, .time, .version, .help]

def grammar : Grammar ProgramOption := ⟨all.map spec, false⟩

end ProgramOption

/-- How the program runs. -/
structure ProgramSettings where
  logging : Log.Options
  nullPolicy : NullPolicy
  rejectDuplicates : Bool
  idScheme : IdScheme

/-- What the program finds where it runs. -/
structure Surroundings where
  env : Environment
  files : Files
  /-- The log file, unless another one is given. -/
  defaultLogPath : String
  /-- What the log tells about the machine. -/
  machine : List String
  /-- The identifiers that generators can draw on. -/
  streams : IdStreams

/-- A path without empty and idle steps. -/
def tidyPath (path : String) : String :=
  let steps := (path.splitOn "/").filter fun s ↦ s != "" && s != "."
  let start := if "/".toList.isPrefixOf path.toList then "/" else ""
  if start = "" && steps.isEmpty then "." else start ++ "/".intercalate steps

def readLogPath (files : Files) (path : String) : Except ValueProblem String :=
  if files.isDirectory path then .error (.isDirectory path) else .ok (tidyPath path)

namespace ProgramSettings

variable (s : Scanned ProgramOption) (around : Surroundings)

def verbosity : Except UsageFault Int := s.count around.env (ProgramOption.spec .verbose)

def quietness : Except UsageFault Int := s.count around.env (ProgramOption.spec .quiet)

def debugMode : Except UsageFault Bool := s.switch around.env (ProgramOption.spec .debugMode) false

def logPath : Except UsageFault String :=
  s.value around.env (ProgramOption.spec .logPath) around.defaultLogPath (readLogPath around.files)

def capacity : Except UsageFault Int :=
  s.value around.env (ProgramOption.spec .capacity) 2000 (readInteger 1)

def flightRecorder : Except UsageFault Bool :=
  s.switch around.env (ProgramOption.spec .flightRecorder) true

def forceFlush : Except UsageFault Bool :=
  s.switch around.env (ProgramOption.spec .forceFlush) false

def overrides : Except UsageFault Log.Overrides :=
  Scanned.blame (ProgramOption.spec .loggerLevels)
    ((Log.readOverrides (s.values around.env (ProgramOption.spec .loggerLevels))).mapError
      fun problem ↦ .other problem.message)

def nullPolicyOf : Except UsageFault NullPolicy :=
  s.value around.env (ProgramOption.spec .nullPolicy) .omit
    (readNamed NullPolicy.all NullPolicy.text)

def rejectDuplicatesOf : Except UsageFault Bool :=
  s.switch around.env (ProgramOption.spec .rejectDuplicates) false

def idSchemeOf : Except UsageFault IdScheme :=
  s.value around.env (ProgramOption.spec .idScheme) .uuid4 (readNamed IdScheme.all IdScheme.text)

def check : ProgramOption → Except UsageFault Unit
  | .color => (s.switch around.env (ProgramOption.spec .color) true).map fun _ ↦ ()
  | .time => (s.switch around.env (ProgramOption.spec .time) false).map fun _ ↦ ()
  | .version => .ok ()
  | .help => .ok ()
  | .verbose => (verbosity s around).map fun _ ↦ ()
  | .quiet => (quietness s around).map fun _ ↦ ()
  | .debugMode => (debugMode s around).map fun _ ↦ ()
  | .logPath => (logPath s around).map fun _ ↦ ()
  | .capacity => (capacity s around).map fun _ ↦ ()
  | .flightRecorder => (flightRecorder s around).map fun _ ↦ ()
  | .forceFlush => (forceFlush s around).map fun _ ↦ ()
  | .loggerLevels => (overrides s around).map fun _ ↦ ()
  | .nullPolicy => (nullPolicyOf s around).map fun _ ↦ ()
  | .rejectDuplicates => (rejectDuplicatesOf s around).map fun _ ↦ ()
  | .idScheme => (idSchemeOf s around).map fun _ ↦ ()

/-- The level of the console: warnings, one level more for each `--verbose` and one less for each
`--quiet`. -/
def consoleLevel (verbosity quietness : Int) : Int :=
  max Log.debug (min Log.critical (Log.warning - 10 * verbosity + 10 * quietness))

/-- The settings that the options and the environment give, provided that all options make
sense. -/
def resolve : Except UsageFault ProgramSettings := do
  let level := consoleLevel (← verbosity s around) (← quietness s around)
  let path ← logPath s around
  let logging : Log.Options :=
    ⟨level, ← debugMode s around,
      if ← flightRecorder s around then some path else none,
      ← capacity s around, ← forceFlush s around, ← overrides s around⟩
  .ok ⟨logging, ← nullPolicyOf s around, ← rejectDuplicatesOf s around, ← idSchemeOf s around⟩

def startup (p : ProgramSettings) (version : String) (machine : List String) : List Report :=
  (p.logging.openingEntry version :: machine.map (Log.Entry.diagnostic .program) ++
    p.logging.settingEntries p.nullPolicy.text).map .entry

end ProgramSettings

end OrgService.CommandLine
