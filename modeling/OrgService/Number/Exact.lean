import OrgService.Number.Decimal
import OrgService.Number.Double

/-!
# Exact comparison of numbers

Truth values, integers, doubles and decimals compare by the numbers they denote, without rounding.
Every finite one is an integer times a power of ten, since 2⁻¹ is 5 * 10⁻¹.
-/

namespace OrgService

/-- A number as a record may hold it; a truth value counts as zero or one. -/
inductive Number where
  | boolean (b : Bool)
  | integer (n : Int)
  | double (x : Double)
  | decimal (d : Decimal)
  deriving DecidableEq, Repr

/-- What a number denotes; `finite coefficient exponent` is `coefficient * 10 ^ exponent`. -/
inductive Exact where
  | finite (coefficient exponent : Int)
  | infinity (negative : Bool)
  | nan (signaling : Bool)
  deriving DecidableEq, Repr

namespace Exact

def signed (negative : Bool) (n : Nat) : Int := if negative then -(n : Int) else n

/-- The order of `a * 10 ^ e` and `b * 10 ^ f` for positive `a` and `b`. Powers of ten are only
computed for numbers with equally high leading digits. -/
def compareMagnitudes (a : Nat) (e : Int) (b : Nat) (f : Int) : Ordering :=
  let leadA := e + Double.digitCount a
  let leadB := f + Double.digitCount b
  if leadA ≠ leadB then compare leadA leadB
  else if e ≤ f then compare a (b * Nat.pow 10 (f - e).toNat)
  else compare (a * Nat.pow 10 (e - f).toNat) b

def compareFinite (a e b f : Int) : Ordering :=
  if a.sign ≠ b.sign then compare a.sign b.sign
  else if a = 0 then .eq
  else if 0 < a then compareMagnitudes a.natAbs e b.natAbs f
  else compareMagnitudes b.natAbs f a.natAbs e

/-- The order of two numbers; a NaN has none. -/
def compare? : Exact → Exact → Option Ordering
  | .nan _, _ => none
  | _, .nan _ => none
  | .infinity n, .infinity m => some (if n == m then .eq else if n then .lt else .gt)
  | .infinity n, .finite _ _ => some (if n then .lt else .gt)
  | .finite _ _, .infinity n => some (if n then .gt else .lt)
  | .finite a e, .finite b f => some (compareFinite a e b f)

end Exact

namespace Number

def exactDouble (negative : Bool) (significand exponent : Nat) : Exact :=
  if 1074 ≤ exponent then .finite (Exact.signed negative (significand <<< (exponent - 1074))) 0
  else .finite (Exact.signed negative (significand * Nat.pow 5 (1074 - exponent)))
    (-(1074 - exponent : Nat))

def exact : Number → Exact
  | .boolean b => .finite (if b then 1 else 0) 0
  | .integer n => .finite n 0
  | .double (.finite negative significand exponent) => exactDouble negative significand exponent
  | .double (.infinity negative) => .infinity negative
  | .double .nan => .nan false
  | .decimal (.finite negative coefficient exponent) =>
    .finite (Exact.signed negative coefficient) exponent
  | .decimal (.infinity negative) => .infinity negative
  | .decimal (.nan _ signaling _) => .nan signaling

def isNaN (n : Number) : Bool :=
  match n.exact with
  | .nan _ => true
  | _ => false

def isSignaling (n : Number) : Bool :=
  match n.exact with
  | .nan signaling => signaling
  | _ => false

def isDecimal : Number → Bool
  | .decimal _ => true
  | _ => false

end Number

end OrgService
