import OrgService.Proofs.Number.Exact

/-!
# What numbers denote

A truth value denotes zero or one, a double its significand times a power of two, a decimal its
coefficient times a power of ten. The form in which numbers are compared has the same place on the
line: nothing is rounded.
-/

namespace OrgService

/-- The end of the line at which an infinity lies. -/
def endOfLine (negative : Bool) : WithBotTop ℚ := if negative then ⊥ else ⊤

def signedRatio (negative : Bool) (magnitude : ℚ) : ℚ := if negative then -magnitude else magnitude

/-- The significand counts powers of two that start at 2⁻¹⁰⁷⁴. -/
def Double.denoted : Double → Option (WithBotTop ℚ)
  | .finite negative significand exponent =>
    some (signedRatio negative (significand * 2 ^ ((exponent : ℤ) - 1074)) : ℚ)
  | .infinity negative => some (endOfLine negative)
  | .nan => none

def Decimal.denoted : Decimal → Option (WithBotTop ℚ)
  | .finite negative coefficient exponent =>
    some (signedRatio negative (coefficient * 10 ^ exponent) : ℚ)
  | .infinity negative => some (endOfLine negative)
  | .nan .. => none

namespace Number

/-- The number itself, among the rational numbers with an infinity at either end; a NaN is none. -/
def denoted : Number → Option (WithBotTop ℚ)
  | .boolean b => some ((if b then 1 else 0 : ℚ) : WithBotTop ℚ)
  | .integer n => some ((n : ℚ) : WithBotTop ℚ)
  | .double x => x.denoted
  | .decimal d => d.denoted

end Number

namespace Exact

theorem ratio_signed (negative : Bool) (n : ℕ) (e : ℤ) :
    ratio (signed negative n) e = signedRatio negative (n * 10 ^ e) := by
  cases negative with
  | false => simp [ratio, signed, signedRatio]
  | true => simp [ratio, signed, signedRatio]

/-- A half is five tenths. -/
theorem five_pow_mul_ten_zpow_neg (k : ℕ) : (5 : ℚ) ^ k * 10 ^ (-(k : ℤ)) = 2 ^ (-(k : ℤ)) := by
  have hten : (10 : ℚ) ^ k = 5 ^ k * 2 ^ k := by rw [← mul_pow]; norm_num
  have hfive : (5 : ℚ) ^ k ≠ 0 := pow_ne_zero k (by norm_num)
  rw [zpow_neg, zpow_neg, zpow_natCast, zpow_natCast, hten, mul_inv, mul_inv_cancel_left₀ hfive]

theorem place?_exactDouble (negative : Bool) (significand exponent : ℕ) :
    (Number.exactDouble negative significand exponent).place? =
      (Double.finite negative significand exponent).denoted := by
  unfold Number.exactDouble
  split
  · rename_i hwhole
    have hexponent : (exponent : ℤ) - 1074 = (exponent - 1074 : ℕ) := by omega
    rw [place?, ratio_signed, Nat.shiftLeft_eq, Double.denoted, hexponent, zpow_zero, mul_one,
      Nat.cast_mul, Nat.cast_pow, Nat.cast_ofNat, zpow_natCast]
  · rename_i hfraction
    have hexponent : (exponent : ℤ) - 1074 = -(1074 - exponent : ℕ) := by omega
    rw [place?, ratio_signed, Double.denoted, hexponent, ← five_pow_mul_ten_zpow_neg, ← mul_assoc]
    simp

end Exact

/-- The form in which a number is compared denotes the number. -/
theorem Number.place?_exact (n : Number) : n.exact.place? = n.denoted := by
  cases n with
  | boolean b => simp [exact, Exact.place?, Exact.ratio, denoted]
  | integer n => simp [exact, Exact.place?, Exact.ratio, denoted]
  | double x =>
      cases x with
      | finite negative significand exponent => exact Exact.place?_exactDouble _ _ _
      | infinity negative => rfl
      | nan => rfl
  | decimal d =>
      cases d with
      | finite negative coefficient exponent =>
          rw [exact, Exact.place?, Exact.ratio_signed]
          rfl
      | infinity negative => rfl
      | nan negative signaling payload => rfl

end OrgService
