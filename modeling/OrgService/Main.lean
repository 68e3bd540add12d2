import OrgService.CommandLine.Run

/-!
# The program

The outer layer: reads the environment and the files that the arguments name, runs the program,
and writes what has come of it.
-/

open OrgService OrgService.CommandLine

def knownVariables : List String :=
  (ProgramOption.all.map ProgramOption.spec).flatMap OptionSpec.variableNames ++
    [CommandOption.columns, .allColumns].flatMap fun o ↦ o.spec.variableNames

def fileState (path : String) : IO FileState := do
  if path == "-" then
    return .text (← (← IO.getStdin).readToEnd)
  try
    let file ← IO.FS.realPath path
    if ← file.isDir then return .directory
    return .text (← IO.FS.readFile file)
  catch
    | .permissionDenied .. => return .unavailable "Permission denied"
    | _ => return .unavailable "No such file or directory"

/-- The paths that arguments and variables may mention: they themselves, and what follows an
equals sign. -/
def mentioned (texts : List String) : List String :=
  texts.flatMap fun t ↦ [t, String.ofList ((t.toList.dropWhile (· != '=')).drop 1)]

def logDirectory : IO String := do
  match ← IO.getEnv "XDG_STATE_HOME" with
  | some state => return state ++ "/fakeorg/log"
  | none => return (← IO.getEnv "HOME").getD "" ++ "/.local/state/fakeorg/log"

def clock : IO Int := do
  let (_, file) ← IO.FS.createTempFile
  let created ← file.metadata
  IO.FS.removeFile file
  return created.modified.sec

def main (arguments : List String) : IO UInt32 := do
  let assigned ← knownVariables.filterMapM fun name ↦ do
    return (← IO.getEnv name).map fun value ↦ (name, value)
  let paths := mentioned (arguments ++ assigned.map Prod.snd)
  let states ← paths.eraseDups.mapM fun path ↦ return (path, ← fileState path)
  let files : Files := fun path ↦
    (states.lookup path).getD (.unavailable "No such file or directory")
  let directory ← logDirectory
  let defaultLogPath := directory ++ "/latest.log"
  let machine := ["CWD: " ++ toString (← IO.currentDir)]
  let streams := IdStreams.ofSeed (← IO.rand 0 (1 <<< 62))
  let outcome :=
    run ⟨Environment.ofList assigned, files, defaultLogPath, machine, streams⟩ arguments
  let now ← clock
  match outcome.recorder? now with
  | none => pure ()
  | some (path, recorder) =>
    if path == defaultLogPath then IO.FS.createDirAll directory
    let lines := recorder.written.map (Log.FlightRecorder.line "1" "MainThread")
    IO.FS.writeFile path (String.join (lines.map (· ++ "\n")))
  (← IO.getStdout).putStr outcome.stdout
  (← IO.getStderr).putStr (outcome.stderr now true)
  return outcome.exitCode.toUInt32
