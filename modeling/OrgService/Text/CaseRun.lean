/-!
# Runs of a case mapping

Case mappings of single characters are stored as runs: every `step`-th code point from `first`
to `last` moves by `shift`.
-/

namespace OrgService.Text

/-- One run of code points that a case mapping moves alike. -/
structure CaseRun where
  first : Nat
  last : Nat
  step : Nat
  shift : Int
  deriving DecidableEq, Repr

namespace CaseRun

def covers (r : CaseRun) (n : Nat) : Bool :=
  r.first ≤ n && n ≤ r.last && (n - r.first) % r.step == 0

/-- The image of a character under the first run that covers it, itself if there is none. -/
def apply (runs : Array CaseRun) (c : Char) : Char :=
  match runs.find? (·.covers c.toNat) with
  | some r => Char.ofNat (Int.toNat (c.toNat + r.shift))
  | none => c

end CaseRun

end OrgService.Text
