import Mathlib.Order.Monotone.Basic
import Mathlib.Order.Nat
import OrgService.Calendar.Date

/-!
# The count of days

The number of a day determines the day: the days of a year come after those of all earlier years,
and within a year the days of a month after those of all earlier months.
-/

namespace OrgService

namespace Calendar

def yearLength (year : ℕ) : ℕ := if isLeap year then 366 else 365

theorem daysBeforeYear_succ {year : ℕ} (h : 1 ≤ year) :
    daysBeforeYear (year + 1) = daysBeforeYear year + yearLength year := by
  obtain ⟨n, rfl⟩ := Nat.exists_eq_add_of_le' h
  have hle : n / 100 ≤ n / 4 := Nat.div_le_div_left (by decide) (by decide)
  have hleap : isLeap (n + 1) = true ↔ 4 ∣ n + 1 ∧ (¬100 ∣ n + 1 ∨ 400 ∣ n + 1) := by
    simp [isLeap, Nat.dvd_iff_mod_eq_zero]
  simp only [daysBeforeYear, yearLength, Nat.add_sub_cancel, Nat.succ_div, hleap]
  -- A leap year adds a day to one of the three counts, or to all of them.
  by_cases h4 : 4 ∣ n + 1
  · by_cases h100 : 100 ∣ n + 1
    · by_cases h400 : 400 ∣ n + 1
      · rw [if_pos h4, if_pos h100, if_pos h400, if_pos ⟨h4, .inr h400⟩]
        omega
      · rw [if_pos h4, if_pos h100, if_neg h400, if_neg fun h ↦ h.2.elim (absurd h100) h400]
        omega
    · have h400 : ¬400 ∣ n + 1 := mt (Nat.dvd_trans (by decide)) h100
      rw [if_pos h4, if_neg h100, if_neg h400, if_pos ⟨h4, .inl h100⟩]
      omega
  · have h100 : ¬100 ∣ n + 1 := mt (Nat.dvd_trans (by decide)) h4
    have h400 : ¬400 ∣ n + 1 := mt (Nat.dvd_trans (by decide)) h100
    rw [if_neg h4, if_neg h100, if_neg h400, if_neg fun h ↦ h4 h.1]
    omega

theorem daysBeforeYear_le {year year' : ℕ} (h : 1 ≤ year) (hlt : year < year') :
    daysBeforeYear year + yearLength year ≤ daysBeforeYear year' := by
  rw [← daysBeforeYear_succ h]
  induction year', hlt using Nat.le_induction with
  | base => exact le_rfl
  | succ n hn ih =>
      have hnext := daysBeforeYear_succ (by omega : 1 ≤ n)
      omega

theorem daysBeforeMonth_succ (year : ℕ) {month : ℕ} (h : 1 ≤ month) :
    daysBeforeMonth year (month + 1) = daysBeforeMonth year month + daysInMonth year month := by
  obtain ⟨n, rfl⟩ := Nat.exists_eq_add_of_le' h
  simp only [daysBeforeMonth, daysInMonth, Nat.add_sub_cancel, List.take_add_one,
    List.getD_eq_getElem?_getD, List.foldl_append]
  cases (monthLengths year)[n]? <;> rfl

theorem daysBeforeMonth_le (year : ℕ) {month month' : ℕ} (h : 1 ≤ month) (hlt : month < month') :
    daysBeforeMonth year month + daysInMonth year month ≤ daysBeforeMonth year month' := by
  rw [← daysBeforeMonth_succ year h]
  induction month', hlt using Nat.le_induction with
  | base => exact le_rfl
  | succ n hn ih =>
      have hnext := daysBeforeMonth_succ year (by omega : 1 ≤ n)
      omega

theorem daysBeforeMonth_thirteen (year : ℕ) : daysBeforeMonth year 13 = yearLength year := by
  simp only [daysBeforeMonth, monthLengths, yearLength]
  cases isLeap year <;> rfl

end Calendar

namespace Date

open Calendar

/-- A day lies within its month. -/
theorem day_bounds (d : Date) : 1 ≤ d.day ∧ d.day ≤ daysInMonth d.year d.month :=
  d.valid.2.2.2.2

/-- A day lies within its year. -/
theorem dayOfYear_bounds (d : Date) :
    1 ≤ daysBeforeMonth d.year d.month + d.day ∧
      daysBeforeMonth d.year d.month + d.day ≤ yearLength d.year := by
  obtain ⟨-, -, hmonth, hmonth', hday, hday'⟩ := d.valid
  have hlast := daysBeforeMonth_le d.year hmonth (by omega : d.month < 13)
  rw [daysBeforeMonth_thirteen] at hlast
  omega

theorem ordinal_lt_of_year_lt {d e : Date} (h : d.year < e.year) : d.ordinal < e.ordinal := by
  have hyears := daysBeforeYear_le d.valid.1 h
  have hd := d.dayOfYear_bounds
  have he := e.dayOfYear_bounds
  unfold ordinal
  omega

theorem ordinal_lt_of_month_lt {d e : Date} (hyear : d.year = e.year) (h : d.month < e.month) :
    d.ordinal < e.ordinal := by
  have hmonths := daysBeforeMonth_le d.year d.valid.2.2.1 h
  have hd := d.day_bounds
  have he := e.day_bounds
  unfold ordinal
  rw [← hyear]
  omega

theorem ordinal_injective : Function.Injective ordinal := by
  intro d e h
  have hyear : d.year = e.year := by
    rcases lt_trichotomy d.year e.year with hlt | heq | hgt
    · exact absurd h (ordinal_lt_of_year_lt hlt).ne
    · exact heq
    · exact absurd h (ordinal_lt_of_year_lt hgt).ne'
  have hmonth : d.month = e.month := by
    rcases lt_trichotomy d.month e.month with hlt | heq | hgt
    · exact absurd h (ordinal_lt_of_month_lt hyear hlt).ne
    · exact heq
    · exact absurd h (ordinal_lt_of_month_lt hyear.symm hgt).ne'
  have hday : d.day = e.day := by
    unfold ordinal at h
    rw [hyear, hmonth] at h
    omega
  cases d
  cases e
  simp_all

end Date

end OrgService
