import Mathlib.Algebra.Order.Field.Power
import Mathlib.Algebra.Order.Field.Rat
import Mathlib.Order.Compare
import Mathlib.Order.WithBotTop
import OrgService.Number.Exact

/-!
# The order of numbers

Numbers compare as the rational numbers they denote do, with an infinity at either end. So numbers
of all kinds lie on one line, and whatever is not a NaN has a place on it.
-/

namespace OrgService

theorem compare_map {α β : Type} [LinearOrder α] [LinearOrder β] {f : α → β} (hf : StrictMono f)
    (a b : α) : compare (f a) (f b) = compare a b := by
  rw [← cmp_eq_compare, ← cmp_eq_compare]
  exact hf.cmp_map_eq a b

namespace Exact

variable {a b : ℕ} {e f : ℤ}

theorem ten_zpow_pos (n : ℤ) : (0 : ℚ) < 10 ^ n := zpow_pos (by norm_num) n

/-! ## Magnitudes -/

theorem lt_ten_zpow_digitCount (a : ℕ) : (a : ℚ) < 10 ^ (Double.digitCount a : ℤ) := by
  have hcount : 0 < Double.digitCount a := List.length_pos_iff.mpr Nat.toDigits_ne_nil
  rw [zpow_natCast]
  exact_mod_cast (Nat.length_toDigits_le_iff (by decide) hcount).mp le_rfl

theorem ten_zpow_digitCount_le (ha : 0 < a) : (10 : ℚ) ^ ((Double.digitCount a : ℤ) - 1) ≤ a := by
  obtain ⟨k, hk⟩ : ∃ k, Double.digitCount a = k + 1 :=
    Nat.exists_eq_succ_of_ne_zero (List.length_pos_iff.mpr Nat.toDigits_ne_nil).ne'
  have hle : 10 ^ k ≤ a := by
    rcases Nat.eq_zero_or_pos k with rfl | hk0
    · exact ha
    · by_contra! hlt
      have hfits : Double.digitCount a ≤ k := (Nat.length_toDigits_le_iff (by decide) hk0).mpr hlt
      omega
  rw [hk, Nat.cast_succ, add_sub_cancel_right, zpow_natCast]
  exact_mod_cast hle

/-- A leading digit in a higher place makes the greater number. -/
theorem lt_of_lead_lt (hb : 0 < b)
    (hlead : e + Double.digitCount a < f + Double.digitCount b) :
    (a : ℚ) * 10 ^ e < b * 10 ^ f := by
  have hten : (10 : ℚ) ≠ 0 := by norm_num
  calc (a : ℚ) * 10 ^ e
      < 10 ^ (Double.digitCount a : ℤ) * 10 ^ e :=
        mul_lt_mul_of_pos_right (lt_ten_zpow_digitCount a) (ten_zpow_pos e)
    _ = 10 ^ (e + Double.digitCount a) := by rw [← zpow_add₀ hten, add_comm]
    _ ≤ 10 ^ (f + Double.digitCount b - 1) := zpow_le_zpow_right₀ (by norm_num) (by omega)
    _ = 10 ^ ((Double.digitCount b : ℤ) - 1) * 10 ^ f := by
        rw [← zpow_add₀ hten, add_sub_assoc, add_comm]
    _ ≤ b * 10 ^ f := mul_le_mul_of_nonneg_right (ten_zpow_digitCount_le hb) (ten_zpow_pos f).le

/-- Multiplying by a power of ten brings a number to a smaller exponent. -/
theorem mul_ten_zpow_eq (b : ℕ) (hef : e ≤ f) :
    (b : ℚ) * 10 ^ f = (b * 10 ^ (f - e).toNat : ℕ) * 10 ^ e := by
  have hexponent : ((f - e).toNat : ℤ) = f - e := Int.toNat_of_nonneg (by omega)
  push_cast
  rw [mul_assoc, ← zpow_natCast, hexponent, ← zpow_add₀ (by norm_num), sub_add_cancel]

theorem compare_mul_ten_zpow (m n : ℕ) (e : ℤ) :
    compare ((m : ℚ) * 10 ^ e) (n * 10 ^ e) = compare m n := by
  have hmono : StrictMono fun n : ℕ ↦ (n : ℚ) * 10 ^ e := fun m n hmn ↦
    mul_lt_mul_of_pos_right (by exact_mod_cast hmn) (ten_zpow_pos e)
  exact compare_map hmono m n

theorem compareMagnitudes_eq (ha : 0 < a) (hb : 0 < b) (e f : ℤ) :
    compareMagnitudes a e b f = compare ((a : ℚ) * 10 ^ e) (b * 10 ^ f) := by
  unfold compareMagnitudes
  dsimp only
  split
  · rename_i hlead
    rcases lt_or_gt_of_ne hlead with hlt | hgt
    · rw [compare_lt_iff_lt.mpr hlt, compare_lt_iff_lt.mpr (lt_of_lead_lt hb hlt)]
    · rw [compare_gt_iff_gt.mpr hgt, compare_gt_iff_gt.mpr (lt_of_lead_lt ha hgt)]
  · split
    · rename_i hef
      rw [mul_ten_zpow_eq b hef, compare_mul_ten_zpow]
      rfl
    · rename_i hef
      rw [mul_ten_zpow_eq a (by omega : f ≤ e), compare_mul_ten_zpow]
      rfl

/-! ## Signed numbers -/

/-- What `finite coefficient exponent` denotes. -/
def ratio (coefficient exponent : ℤ) : ℚ := coefficient * 10 ^ exponent

variable {c d : ℤ}

theorem ratio_of_pos (hc : 0 < c) (e : ℤ) : ratio c e = (c.natAbs : ℚ) * 10 ^ e := by
  rw [ratio, Nat.cast_natAbs, abs_of_pos hc]

theorem ratio_of_neg (hc : c < 0) (e : ℤ) : ratio c e = -((c.natAbs : ℚ) * 10 ^ e) := by
  rw [ratio, Nat.cast_natAbs, abs_of_neg hc, Int.cast_neg, neg_mul, neg_neg]

theorem ratio_pos (hc : 0 < c) (e : ℤ) : 0 < ratio c e :=
  mul_pos (by exact_mod_cast hc) (ten_zpow_pos e)

theorem ratio_neg (hc : c < 0) (e : ℤ) : ratio c e < 0 :=
  mul_neg_of_neg_of_pos (by exact_mod_cast hc) (ten_zpow_pos e)

@[simp] theorem ratio_zero (e : ℤ) : ratio 0 e = 0 := by
  simp [ratio]

theorem sign_ratio_lt (h : c.sign < d.sign) (e f : ℤ) : ratio c e < ratio d f := by
  rcases lt_trichotomy c 0 with hc | rfl | hc <;> rcases lt_trichotomy d 0 with hd | rfl | hd
  · simp [Int.sign_eq_neg_one_of_neg, hc, hd] at h
  · simpa using ratio_neg hc e
  · exact (ratio_neg hc e).trans (ratio_pos hd f)
  · simp [Int.sign_eq_neg_one_of_neg, hd] at h
  · simp at h
  · simpa using ratio_pos hd f
  · simp [Int.sign_eq_neg_one_of_neg, Int.sign_eq_one_of_pos, hc, hd] at h
  · simp [Int.sign_eq_one_of_pos, hc] at h
  · simp [Int.sign_eq_one_of_pos, hc, hd] at h

theorem compare_neg_neg (x y : ℚ) : compare (-x) (-y) = compare y x := by
  have hanti : StrictAnti fun x : ℚ ↦ -x := fun _ _ ↦ neg_lt_neg
  rw [← cmp_eq_compare, ← cmp_eq_compare]
  exact hanti.cmp_map_eq x y

theorem compareFinite_eq (c e d f : ℤ) :
    compareFinite c e d f = compare (ratio c e) (ratio d f) := by
  unfold compareFinite
  split
  · rename_i hsign
    rcases lt_or_gt_of_ne hsign with hlt | hgt
    · rw [compare_lt_iff_lt.mpr hlt, compare_lt_iff_lt.mpr (sign_ratio_lt hlt e f)]
    · rw [compare_gt_iff_gt.mpr hgt, compare_gt_iff_gt.mpr (sign_ratio_lt hgt f e)]
  · rename_i hsign
    have hsign : c.sign = d.sign := not_not.mp hsign
    rcases lt_trichotomy c 0 with hc | rfl | hc
    · have hd : d < 0 := Int.sign_eq_neg_one_iff_neg.mp
        (hsign.symm.trans (Int.sign_eq_neg_one_of_neg hc))
      rw [if_neg hc.ne, if_neg hc.not_gt,
        compareMagnitudes_eq (Int.natAbs_pos.mpr hd.ne) (Int.natAbs_pos.mpr hc.ne),
        ratio_of_neg hc, ratio_of_neg hd, compare_neg_neg]
    · obtain rfl : d = 0 := Int.sign_eq_zero_iff_zero.mp (by simpa using hsign.symm)
      simp
    · have hd : 0 < d := Int.sign_eq_one_iff_pos.mp
        (hsign.symm.trans (Int.sign_eq_one_of_pos hc))
      rw [if_neg hc.ne', if_pos hc,
        compareMagnitudes_eq (Int.natAbs_pos.mpr hc.ne') (Int.natAbs_pos.mpr hd.ne'),
        ratio_of_pos hc, ratio_of_pos hd]

/-! ## Places on the line -/

/-- Where a number lies among the rational numbers with an infinity at either end. -/
def place? : Exact → Option (WithBotTop ℚ)
  | .finite coefficient exponent => some (ratio coefficient exponent)
  | .infinity negative => some (if negative then ⊥ else ⊤)
  | .nan _ => none

/-- Numbers compare by their places, and one that has none does not compare. -/
theorem compare?_eq (x y : Exact) :
    x.compare? y = x.place?.bind fun p ↦ y.place?.map fun q ↦ compare p q := by
  have hfinite : ∀ p q : ℚ, compare (p : WithBotTop ℚ) (q : WithBotTop ℚ) = compare p q :=
    compare_map WithBotTop.coe_strictMono
  have hbot : ∀ p : ℚ, ⊥ < (p : WithBotTop ℚ) := fun p ↦ bot_lt_iff_ne_bot.mpr (by simp)
  have htop : ∀ p : ℚ, (p : WithBotTop ℚ) < ⊤ := fun p ↦ lt_top_iff_ne_top.mpr (by simp)
  have hends : (⊥ : WithBotTop ℚ) < ⊤ := bot_lt_iff_ne_bot.mpr (by simp)
  cases x with
  | nan => rfl
  | finite c e =>
      cases y with
      | nan => rfl
      | finite d f => simp [compare?, place?, hfinite, compareFinite_eq]
      | infinity negative =>
          cases negative
          · simp [compare?, place?, compare_lt_iff_lt.mpr (htop (ratio c e))]
          · simp [compare?, place?, compare_gt_iff_gt.mpr (hbot (ratio c e))]
  | infinity negative =>
      cases y with
      | nan => rfl
      | finite d f =>
          cases negative
          · simp [compare?, place?, compare_gt_iff_gt.mpr (htop (ratio d f))]
          · simp [compare?, place?, compare_lt_iff_lt.mpr (hbot (ratio d f))]
      | infinity negative' =>
          cases negative <;> cases negative'
          · simp [compare?, place?]
          · simp [compare?, place?, compare_gt_iff_gt.mpr hends]
          · simp [compare?, place?, compare_lt_iff_lt.mpr hends]
          · simp [compare?, place?]

end Exact

end OrgService
