import Mathlib.Algebra.Group.Nat.Defs
import OrgService.Guid

/-!
# Literals read back

Trimming leaves a text alone that holds nothing to trim, and the hexadecimal digits of a number
are read as that number.
-/

namespace OrgService.Text

theorem dropWhile_of_forall_false {α : Type} {p : α → Bool} {xs : List α}
    (h : ∀ x ∈ xs, p x = false) : xs.dropWhile p = xs := by
  cases xs with
  | nil => rfl
  | cons x xs => simp [h x List.mem_cons_self]

theorem trimBoth_of_forall {p : Char → Bool} {cs : List Char} (h : ∀ c ∈ cs, p c = false) :
    trimBoth p cs = cs := by
  have hreverse : ∀ c ∈ cs.reverse, p c = false := fun c hc ↦ h c (List.mem_reverse.mp hc)
  rw [trimBoth, dropWhile_of_forall_false h, dropWhile_of_forall_false hreverse,
    List.reverse_reverse]

theorem map_of_forall {f : Char → Char} {cs : List Char} (h : ∀ c ∈ cs, f c = c) :
    cs.map f = cs :=
  (List.map_congr_left h).trans (List.map_id cs)

theorem forall_mem_of_all {P : Char → Prop} [DecidablePred P] {cs : List Char}
    (h : cs.all (fun c ↦ decide (P c)) = true) : ∀ c ∈ cs, P c :=
  fun c hc ↦ of_decide_eq_true (List.all_eq_true.mp h c hc)

/-! ## Hexadecimal digits -/

def IsHexDigit (c : Char) : Prop := ∃ n < 16, c = hexDigit n

theorem IsHexDigit.of_mem {width n : Nat} {c : Char} (hc : c ∈ hexDigits width n) :
    IsHexDigit c := by
  induction width generalizing n with
  | zero => simp [hexDigits] at hc
  | succ width ih =>
      rcases List.mem_append.mp hc with hc | hc
      · exact ih hc
      · exact ⟨n % 16, Nat.mod_lt _ (by decide), List.mem_singleton.mp hc⟩

/-- What is checked for the sixteen digits holds of every hexadecimal digit. -/
theorem IsHexDigit.elim {P : Char → Prop} (h : ∀ n < 16, P (hexDigit n)) {c : Char}
    (hc : IsHexDigit c) : P c := by
  obtain ⟨n, hn, rfl⟩ := hc
  exact h n hn

theorem hexValue?_hexDigit : ∀ n < 16, hexValue? (hexDigit n) = some n := by decide

theorem IsHexDigit.ne {c d : Char} (hc : IsHexDigit c) (hd : hexValue? d = none) : c ≠ d := by
  rintro rfl
  obtain ⟨n, hn, rfl⟩ := hc
  simp [hexValue?_hexDigit n hn] at hd

theorem moreDigits?_hexDigit {n : Nat} (hn : n < 16) (acc : Nat) (cs : List Char) :
    moreDigits? 16 acc (hexDigit n :: cs) = moreDigits? 16 (acc * 16 + n) cs := by
  have hmark : hexDigit n ≠ '_' := IsHexDigit.ne ⟨n, hn, rfl⟩ rfl
  rw [moreDigits?, baseDigit?, hexValue?_hexDigit n hn]
  · simp [Option.filter, hn]
  · exact fun _ _ h ↦ absurd h hmark

theorem moreDigits?_hexDigits (width n acc : Nat) (cs : List Char) :
    moreDigits? 16 acc (hexDigits width n ++ cs) =
      moreDigits? 16 (acc * 16 ^ width + n % 16 ^ width) cs := by
  induction width generalizing n acc cs with
  | zero => simp [hexDigits, Nat.mod_one]
  | succ width ih =>
      rw [hexDigits, List.append_assoc, List.singleton_append, ih,
        moreDigits?_hexDigit (Nat.mod_lt _ (by decide)), Nat.pow_succ',
        Nat.mod_mul, Nat.add_mul, Nat.mul_assoc, Nat.mul_comm (16 ^ width) 16]
      congr 1
      omega

theorem digits?_of_forall {cs : List Char} (hcs : ∀ c ∈ cs, IsHexDigit c) (hne : cs ≠ []) :
    digits? 16 cs = moreDigits? 16 0 cs := by
  cases cs with
  | nil => exact absurd rfl hne
  | cons c cs =>
      obtain ⟨n, hn, rfl⟩ := hcs c List.mem_cons_self
      rw [moreDigits?_hexDigit hn, digits?, baseDigit?, hexValue?_hexDigit n hn]
      simp [Option.filter, hn]

theorem splitSign_of_forall {cs : List Char} (hcs : ∀ c ∈ cs, IsHexDigit c) :
    splitSign cs = (false, cs) := by
  unfold splitSign
  split
  · exact absurd rfl ((hcs _ List.mem_cons_self).ne rfl)
  · exact absurd rfl ((hcs _ List.mem_cons_self).ne rfl)
  · rfl

theorem dropHexMark_of_forall {cs : List Char} (hcs : ∀ c ∈ cs, IsHexDigit c) :
    dropHexMark cs = cs := by
  have hmark : ∀ x : Char, IsHexDigit x → (x == 'x' || x == 'X') = false :=
    fun _ ↦ IsHexDigit.elim (P := fun x ↦ (x == 'x' || x == 'X') = false) (by decide)
  unfold dropHexMark
  split
  · rw [if_neg (by simp [hmark _ (hcs _ (.tail _ List.mem_cons_self))])]
  · rw [if_neg (by simp [hmark _ (hcs _ (.tail _ List.mem_cons_self))])]
  · rfl

/-- The last hexadecimal digits of a number, at least one of them, are read as what they say. -/
theorem hexInteger?_hexDigits {width : Nat} (hwidth : 0 < width) (n : Nat) :
    hexInteger? (hexDigits width n) = some ((n % 16 ^ width : Nat) : Int) := by
  have hdigits : ∀ c ∈ hexDigits width n, IsHexDigit c := fun c ↦ IsHexDigit.of_mem
  have hascii : (hexDigits width n).map asciiForm = hexDigits width n :=
    map_of_forall fun c hc ↦ (hdigits c hc).elim (P := fun c ↦ asciiForm c = c) (by decide)
  have htrim : trimBoth isLiteralBlank (hexDigits width n) = hexDigits width n :=
    trimBoth_of_forall fun c hc ↦
      (hdigits c hc).elim (P := fun c ↦ isLiteralBlank c = false) (by decide)
  have hne : hexDigits width n ≠ [] := List.length_pos_iff.mp (by simpa using hwidth)
  have hread := moreDigits?_hexDigits width n 0 []
  rw [List.append_nil, Nat.zero_mul, Nat.zero_add] at hread
  simp only [hexInteger?, hascii, htrim, splitSign_of_forall hdigits,
    dropHexMark_of_forall hdigits, digits?_of_forall hdigits hne, hread]
  rfl

end OrgService.Text
