import OrgService.Value

/-!
# Equality of attribute values

Two values are equal if they are of the same wrapped kind and hold equal contents; numbers are
equal across their kinds. The display name of a reference does not count.
-/

namespace OrgService.Value

/-- Equality of values; comparing a signaling NaN breaks down. -/
def equal : Value → Value → Except Breakdown Bool
  | .number m, .number n => Comparable.equalNumbers m n
  | .text s, .text t => .ok (s == t)
  | .reference l id _, .reference l' id' _ => .ok (l.same l' && id == id')
  | .option m, .option n => .ok (m == n)
  | .money a, .money b => Comparable.equalNumbers (.decimal a) (.decimal b)
  | .aliased e a v, .aliased e' a' v' => if e == e' && a == a' then v.equal v' else .ok false
  | .guid g, .guid h => .ok (g == h)
  | .date d, .date e => .ok (d == e)
  | .timestamp s, .timestamp t => .ok (s.isAware == t.isAware && s.instant == t.instant)
  | .absent, .absent => .ok true
  | .null, .null => .ok true
  | _, _ => .ok false

end OrgService.Value
