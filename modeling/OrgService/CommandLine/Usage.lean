import OrgService.Text.Quoted
import OrgService.Text.Similarity

/-!
# Usage faults

What can be wrong with the arguments of the program, and how it says so.
-/

namespace OrgService.CommandLine

/-- Why the value of an option or an argument is unusable. -/
inductive ValueProblem where
  | notAChoice (text : String) (choices : List String)
  | notABoolean (text : String)
  | notAnInteger (text : String)
  | outOfRange (value least : Int)
  | notAGuid (text : String)
  | unreadable (path reason : String)
  | isDirectory (path : String)
  | other (message : String)
  deriving Repr

def booleanWords : List String :=
  ["", "0", "1", "f", "false", "n", "no", "off", "on", "t", "true", "y", "yes"]

def ValueProblem.message : ValueProblem → String
  | .notAChoice text choices =>
    Text.quoted text ++ " is not one of " ++ ", ".intercalate (choices.map Text.quoted) ++ "."
  | .notABoolean text =>
    Text.quoted text ++ " is not a valid boolean. Recognized values: " ++
      ", ".intercalate booleanWords
  | .notAnInteger text => Text.quoted text ++ " is not a valid integer range."
  | .outOfRange value least =>
    toString value ++ " is not in the range x>=" ++ toString least ++ "."
  | .notAGuid text => Text.quoted text ++ " is not a valid UUID."
  | .unreadable path reason => "'" ++ path ++ "': " ++ reason
  | .isDirectory path => "File '" ++ path ++ "' is a directory."
  | .other message => message

/-- Why the arguments of the program make no sense. -/
inductive UsageFault where
  | missingCommand
  | noSuchCommand (name : String) (similar : List String)
  | noSuchOption (name : String) (similar : List String)
  | needsValue (option : String)
  | takesNoValue (option : String)
  | missingArgument (name : String)
  | extraArguments (arguments : List String)
  | invalidValue (place : String) (problem : ValueProblem)
  deriving Repr

namespace UsageFault

def similarOptions : List String → String
  | [] => ""
  | [name] => " Did you mean " ++ Text.quoted name ++ "?"
  | names =>
    " (Did you mean one of: " ++
      ", ".intercalate ((names.mergeSort (· ≤ ·)).map Text.quoted) ++ "?)"

def similarCommands : List String → String
  | [] => ""
  | [name] => " Did you mean '" ++ name ++ "'?"
  | names => " Did you mean one of these?\n" ++ "\n".intercalate (names.map ("   " ++ ·))

def message : UsageFault → String
  | .missingCommand => "Missing command."
  | .noSuchCommand name similar =>
    "No such command " ++ Text.quoted name ++ "." ++ similarCommands similar
  | .noSuchOption name similar =>
    "No such option " ++ Text.quoted name ++ "." ++ similarOptions similar
  | .needsValue option => "Option " ++ Text.quoted option ++ " requires an argument."
  | .takesNoValue option => "Option " ++ Text.quoted option ++ " does not take a value."
  | .missingArgument name => "Missing argument '" ++ name ++ "'."
  | .extraArguments [argument] => "Got unexpected extra argument (" ++ argument ++ ")"
  | .extraArguments arguments =>
    "Got unexpected extra arguments (" ++ " ".intercalate arguments ++ ")"
  | .invalidValue place problem => "Invalid value for " ++ place ++ ": " ++ problem.message

end UsageFault

end OrgService.CommandLine
