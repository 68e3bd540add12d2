import OrgService.CommandLine.Usage
import OrgService.Log.Entry
import OrgService.Notice

/-!
# Sessions

While it runs, the program writes log entries, notices and output. It ends early when it has
nothing more to do, when an argument makes no sense, when a request fails, or when a value breaks
down.
-/

namespace OrgService.CommandLine

/-- Something that the program writes. -/
inductive Report where
  | entry (e : Log.Entry)
  | notice (kind : Notice) (message : String)
  | output (text : String)
  deriving Repr

/-- Why the program ends early. -/
inductive Ending where
  | done
  | failure (message : String)
  | usage (fault : UsageFault)
  | breakdown (fault : Fault)
  deriving Repr

/-- A part of a run: what it writes, and its result unless the program ends in it. -/
structure Session (α : Type) where
  reports : List Report
  result : Except Ending α

namespace Session

/-- Goes on unless the program has ended. -/
def andThen {α β : Type} (x : Session α) (f : α → Session β) : Session β :=
  match x.result with
  | .error e => ⟨x.reports, .error e⟩
  | .ok a => ⟨x.reports ++ (f a).reports, (f a).result⟩

instance : Monad Session where
  pure a := ⟨[], .ok a⟩
  bind := andThen

def write (r : Report) : Session Unit := ⟨[r], .ok ()⟩

def writeAll (rs : List Report) : Session Unit := ⟨rs, .ok ()⟩

def finish {α : Type} (e : Ending) : Session α := ⟨[], .error e⟩

/-- Ends the program if an argument makes no sense. -/
def checked {α : Type} (x : Except UsageFault α) : Session α := ⟨[], x.mapError .usage⟩

/-- Does a traced operation; `ending` says how the program ends if it fails. -/
def traced {α : Type} (x : Traced α) (ending : Fault → Ending) : Session α :=
  ⟨x.entries.map .entry, x.result.mapError ending⟩

end Session

/-- What a path leads to. -/
inductive FileState where
  | text (content : String)
  | directory
  | unavailable (reason : String)
  deriving Repr

/-- The files that can be read, by their paths; a dash leads to the standard input. -/
abbrev Files := String → FileState

namespace Files

def title (path : String) : String := if path = "-" then "<stdin>" else path

def read (files : Files) (path : String) : Except ValueProblem String :=
  match files path with
  | .text content => .ok content
  | .directory => .error (.unreadable path "Is a directory")
  | .unavailable reason => .error (.unreadable path reason)

def isDirectory (files : Files) (path : String) : Bool :=
  match files path with
  | .directory => true
  | _ => false

end Files

end OrgService.CommandLine
