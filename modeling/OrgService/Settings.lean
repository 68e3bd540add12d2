import OrgService.Fault
import OrgService.NullPolicy
import OrgService.Store.Ids
import OrgService.Text.Blank
import OrgService.Text.LowerCase

/-!
# Settings of the environment

Three variables of the environment set the null policy, whether a seeded identity may be seeded
again, and the generator of identifiers. Blanks around a value and its case do not matter, an
empty value counts as unset, and any other value that means nothing is a fault.
-/

namespace OrgService

abbrev Environment := String → Option String

namespace Environment

def empty : Environment := fun _ ↦ none

def ofList (bindings : List (String × String)) : Environment := fun name ↦ bindings.lookup name

/-- The text of a variable without the blanks around it; empty if it is unset. -/
def trimmed (env : Environment) (name : String) : String :=
  Text.trimBlank ((env name).getD "")

end Environment

namespace Settings

def nullPolicyVariable : String := "FAKEORG_NULL_POLICY"

def rejectDuplicatesVariable : String := "FAKEORG_REJECT_DUPLICATE_SEEDS"

def idSchemeVariable : String := "FAKEORG_ID_GENERATOR"

def alternatives (words : List String) : String :=
  " or ".intercalate (words.map Text.quoted)

def nullPolicy (env : Environment) : Except Fault NullPolicy :=
  let raw := env.trimmed nullPolicyVariable
  if raw = "" then .ok .omit
  else match NullPolicy.ofText? (Text.lowerCase raw) with
    | some p => .ok p
    | none =>
      .error (.setting nullPolicyVariable raw (alternatives (NullPolicy.all.map NullPolicy.text)))

def affirmations : List String := ["1", "true", "yes", "on"]

def negations : List String := ["", "0", "false", "no", "off"]

def rejectDuplicates (env : Environment) : Except Fault Bool :=
  let raw := Text.lowerCase (env.trimmed rejectDuplicatesVariable)
  if affirmations.contains raw then .ok true
  else if negations.contains raw then .ok false
  else .error (.setting rejectDuplicatesVariable raw "a boolean flag")

def idScheme (env : Environment) : Except Fault IdScheme :=
  let raw := Text.lowerCase (env.trimmed idSchemeVariable)
  if raw = "" then .ok .uuid4
  else match IdScheme.ofText? raw with
    | some scheme => .ok scheme
    | none => .error (.setting idSchemeVariable raw (alternatives (IdScheme.all.map IdScheme.text)))

end Settings

end OrgService
