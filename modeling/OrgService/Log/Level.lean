/-!
# Log levels

Levels are numbers; eight words name six of them.
-/

namespace OrgService.Log

def debug : Nat := 10

def info : Nat := 20

def warning : Nat := 30

def error : Nat := 40

def critical : Nat := 50

def levelOfName? : String → Option Nat
  | "CRITICAL" => some critical
  | "FATAL" => some critical
  | "ERROR" => some error
  | "WARN" => some warning
  | "WARNING" => some warning
  | "INFO" => some info
  | "DEBUG" => some debug
  | "NOTSET" => some 0
  | _ => none

/-- The word for a level, or its number if it has none. -/
def levelName (n : Int) : String :=
  if n = 50 then "CRITICAL"
  else if n = 40 then "ERROR"
  else if n = 30 then "WARNING"
  else if n = 20 then "INFO"
  else if n = 10 then "DEBUG"
  else if n = 0 then "NOTSET"
  else "Level " ++ toString n

end OrgService.Log
