import OrgService.Log.Level
import OrgService.OrderedMap
import OrgService.Text.Blank
import OrgService.Text.Quoted

/-!
# Overrides of log levels

An override sets the level of one logger, written as its name, an equals sign and the word for
the level. Overrides stand in texts, separated by commas and blanks; a later one for the same
logger wins.
-/

namespace OrgService.Log

abbrev Overrides := OrderedMap String Int

/-- Loggers that are kept quiet unless an override says otherwise. -/
def defaultOverrides : Overrides := OrderedMap.ofList [("click_extra", (warning : Int))]

def separates (c : Char) : Bool := c == ',' || Text.isBlank c

/-- The pieces between separators that are not empty; `acc` holds the current one in reverse. -/
def pieces (acc : List Char) : List Char → List (List Char)
  | [] => if acc.isEmpty then [] else [acc.reverse]
  | c :: cs =>
    if separates c then
      if acc.isEmpty then pieces [] cs else acc.reverse :: pieces [] cs
    else pieces (c :: acc) cs

/-- The capital of a letter that stands in words for levels; a dotless i and a long s have
capitals among them too. -/
def capital (c : Char) : Char :=
  if c == '\u0131' then 'I' else if c == '\u017f' then 'S' else c.toUpper

/-- What is wrong with an override. -/
inductive OverrideProblem where
  | notAPair (item : String)
  | unknownLevel (word : String)
  deriving DecidableEq, Repr

def OverrideProblem.message : OverrideProblem → String
  | .notAPair item => "Expected NAME=LEVEL, got " ++ Text.quoted item
  | .unknownLevel word => "Invalid log level: " ++ word

def readOverride (item : List Char) : Except OverrideProblem (String × Int) :=
  match item.span (· != '=') with
  | (name, '=' :: word) =>
    if name.isEmpty then .error (.notAPair (String.ofList item))
    else match levelOfName? (String.ofList (word.map capital)) with
      | some level => .ok (String.ofList name, level)
      | none => .error (.unknownLevel (String.ofList word))
  | _ => .error (.notAPair (String.ofList item))

def readOverrides (texts : List String) : Except OverrideProblem Overrides :=
  (texts.flatMap fun t ↦ pieces [] t.toList).foldlM
    (fun overrides item ↦ (readOverride item).map fun o ↦ overrides.insert o.1 o.2)
    defaultOverrides

/-- Whether an override for the first logger governs the second one: itself or one above it. -/
def governs (name logger : String) : Bool :=
  name == logger || (name.toList ++ ['.']).isPrefixOf logger.toList

/-- Of two overrides the one for the nearer logger: that with the longer name. -/
def nearer (a : Option (String × Int)) (b : String × Int) : Option (String × Int) :=
  match a with
  | none => some b
  | some a => if a.1.length < b.1.length then some b else some a

def rootLevel (overrides : Overrides) : Int := (overrides.get? "root").getD debug

/-- The level from which on a logger writes: that of the nearest override which is not zero, or
else that of the root. -/
def effectiveLevel (overrides : Overrides) (logger : String) : Int :=
  let governing := overrides.entries.filter fun o ↦ governs o.1 logger && o.2 != 0
  match governing.foldl nearer none with
  | some o => o.2
  | none => rootLevel overrides

end OrgService.Log
