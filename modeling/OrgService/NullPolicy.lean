/-!
# Null policies

A null policy says how attributes that were set to null read: like attributes that were never
assigned, or as present with a null value.
-/

namespace OrgService

/-- How explicit nulls are reported. -/
inductive NullPolicy where
  | omit
  | retain
  deriving DecidableEq, Repr

namespace NullPolicy

def all : List NullPolicy := [.omit, .retain]

def text : NullPolicy → String
  | .omit => "omit"
  | .retain => "retain"

def ofText? (s : String) : Option NullPolicy := all.find? (·.text == s)

def keepsNull (p : NullPolicy) : Bool := p == .retain

end NullPolicy

end OrgService
