/-!
# Binary floating-point numbers of 64 bits

A finite double is a whole number of units of 2⁻¹⁰⁷⁴: a significand below 2⁵³ times a power of
two. Reading a decimal rounds to the nearest double, ties to an even significand.
-/

namespace OrgService

/-- A double; `finite negative significand exponent` has the magnitude
`significand * 2 ^ exponent` in units of 2⁻¹⁰⁷⁴. -/
inductive Double where
  | finite (negative : Bool) (significand exponent : Nat)
  | infinity (negative : Bool)
  | nan
  deriving DecidableEq, Repr, Inhabited

namespace Double

def scale : Nat := 1 <<< 1074

def roundHalfEven (num den : Nat) : Nat :=
  let q := num / den
  let r := 2 * (num % den)
  if r < den then q
  else if den < r then q + 1
  else if q % 2 == 0 then q else q + 1

def ofUnits (negative : Bool) (num den : Nat) : Double :=
  let exponent := (num / den).log2 - 52
  let significand := roundHalfEven num (den <<< exponent)
  let (significand, exponent) :=
    if significand = 1 <<< 53 then (1 <<< 52, exponent + 1) else (significand, exponent)
  if exponent ≤ 2045 then .finite negative significand exponent else .infinity negative

/-- The number of decimal digits of a number; one for zero. -/
def digitCount (n : Nat) : Nat := (Nat.toDigits 10 n).length

/-- The double nearest to `coefficient * 10 ^ exponent`. Magnitudes far outside the range of
doubles are settled without computing the power. -/
def ofDecimal (negative : Bool) (coefficient : Nat) (exponent : Int) : Double :=
  if coefficient = 0 then .finite negative 0 0
  else
    let magnitude := exponent + digitCount coefficient
    if 400 < magnitude then .infinity negative
    else if magnitude < -400 then .finite negative 0 0
    else if 0 ≤ exponent then ofUnits negative (coefficient * Nat.pow 10 exponent.toNat * scale) 1
    else ofUnits negative (coefficient * scale) (Nat.pow 10 (-exponent).toNat)

def units (significand exponent : Nat) : Nat := significand <<< exponent

def truncate? : Double → Option Int
  | .finite negative significand exponent =>
    let n : Int := (units significand exponent / scale : Nat)
    some (if negative then -n else n)
  | _ => none

end Double

end OrgService
