import OrgService.Log.Event

/-!
# The console

The console shows events from a level on. Events of other packages carry the name of their
package in front; in debug mode the console shows every event for diagnosis with its time and
logger instead.
-/

namespace OrgService.Log

/-- The first part of the names of this package's own loggers. -/
def ownPackage : String := "fakeorg"

/-- The package that a logger belongs to: its name up to the first dot. -/
def packageOf (logger : String) : String :=
  String.ofList (logger.toList.takeWhile (· != '.'))

/-- What stands before the message of an event: nothing for the package's own events. -/
def packageMark (logger : String) : String :=
  if ownPackage.toList.isPrefixOf logger.toList then "" else "[" ++ packageOf logger ++ "]"

/-- A handler that shows events. -/
structure Console where
  level : Int
  debugMode : Bool
  deriving DecidableEq, Repr

namespace Console

def configure (level : Int) (debugMode : Bool) : Console :=
  ⟨if debugMode then debug else level, debugMode⟩

def shows (c : Console) (e : Event) : Bool := c.level ≤ e.level

def format (c : Console) (e : Event) : String :=
  if c.debugMode then e.timeText ++ " " ++ e.logger ++ ": " ++ e.message
  else packageMark e.logger ++ " " ++ e.message

end Console

end OrgService.Log
