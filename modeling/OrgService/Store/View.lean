import OrgService.Store

/-!
# Views

A view reads the contents that a store had at one time. It remembers the attributes of a type once
they were asked for.
-/

namespace OrgService

/-- A snapshot with the attributes that were asked for so far, by type. -/
structure View where
  contents : Snapshot
  remembered : OrderedMap String (List String)
  deriving Repr

namespace View

def ofContents (contents : Snapshot) : View := ⟨contents, OrderedMap.empty⟩

/-- The names of the attributes of a type, remembered or else collected. -/
def knownAttributes (v : View) (entityName : String) : List String × View :=
  match v.remembered.get? entityName with
  | some names => (names, v)
  | none =>
    if v.contents.hasType entityName then
      let names := v.contents.knownAttributes entityName
      (names, { v with remembered := v.remembered.insert entityName names })
    else ([], v)

end View

end OrgService
