import OrgService.Store

/-!
# Scans

A scan hands out the records of one type one at a time. It reads the store at its first step; what
it hands out from then on is settled, whatever is seeded later.
-/

namespace OrgService

/-- A scan of the records of a type: not begun, or with these records still to hand out. -/
inductive Scan where
  | pending (entityName : String)
  | underway (rest : List Record)
  deriving Repr, Inhabited

namespace Scan

/-- The records that a scan hands out from here on, if its next step reads these contents. -/
def remaining (contents : Snapshot) : Scan → List Record
  | pending entityName => contents.scan entityName
  | underway rest => rest

/-- Hands out the next record of these contents, if there is one. -/
def advance (contents : Snapshot) (x : Scan) : Option Record × Scan :=
  ((x.remaining contents).head?, underway (x.remaining contents).tail)

/-- Hands out the next record of a store, if there is one. -/
def next (s : Store) (x : Scan) : Option Record × Scan := x.advance s.contents

/-- Once begun, a scan no longer looks at the store. -/
theorem remaining_next (s : Store) (later : Snapshot) (x : Scan) :
    (x.next s).2.remaining later = (x.remaining s.contents).tail := rfl

end Scan

end OrgService
