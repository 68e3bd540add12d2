import OrgService.Log.Event

/-!
# The flight recorder

The flight recorder keeps the latest events in memory. It writes them out when an event of a
certain level arrives, when its memory is full, and, if it is told to, when it is closed.
-/

namespace OrgService.Log

/-- A flight recorder with the events it keeps and those it has written. -/
structure FlightRecorder where
  capacity : Int
  flushLevel : Int
  flushOnClose : Bool
  kept : List Event
  written : List Event
  deriving Repr

namespace FlightRecorder

def new (capacity flushLevel : Int) (flushOnClose : Bool) : FlightRecorder :=
  ⟨capacity, flushLevel, flushOnClose, [], []⟩

def flush (r : FlightRecorder) : FlightRecorder :=
  { r with kept := [], written := r.written ++ r.kept }

def handle (r : FlightRecorder) (e : Event) : FlightRecorder :=
  let r := { r with kept := r.kept ++ [e] }
  if r.capacity ≤ r.kept.length || r.flushLevel ≤ e.level then r.flush else r

def handleAll (r : FlightRecorder) (events : List Event) : FlightRecorder :=
  events.foldl handle r

def close (r : FlightRecorder) : FlightRecorder :=
  if r.flushOnClose then r.flush else r

/-- The line of the file for an event that a process and a thread have written. -/
def line (process thread : String) (e : Event) : String :=
  "[" ++ e.timeText ++ "] [" ++ process ++ ":" ++ thread ++ "] " ++ levelName e.level ++ " " ++
    e.logger ++ ":" ++ toString e.line ++ ": " ++ e.message

end FlightRecorder

end OrgService.Log
