import Mathlib.Data.List.Pairwise
import OrgService.Proofs.StableSort
import OrgService.Proofs.Trace

/-!
# Sorting by comparisons

A comparison sort learns of its elements only by comparing two of them: what it does is a tree of
comparisons, and the answers lead to one of its leaves. Comparisons may fail to give an answer, and
then the sort fails as well. If some elements can be compared and others cannot, one does not know
which pairs a sort meets; but it cannot succeed if two linear orders fit all the answers that there
are, since they would lead it to the same leaf.
-/

namespace OrgService

variable {α β γ ε : Type}

/-- A computation that only compares elements of a list and ends in results with a property. -/
inductive OnlyCompares (xs : List α) (P : β → Prop) :
    ((α → α → Except ε Bool) → Except ε β) → Prop
  | done {b : β} (hb : P b) : OnlyCompares xs P fun _ ↦ .ok b
  | ask {a b : α} (ha : a ∈ xs) (hb : b ∈ xs)
    {next : Bool → (α → α → Except ε Bool) → Except ε β}
    (hnext : ∀ answer, OnlyCompares xs P (next answer)) :
    OnlyCompares xs P fun less ↦ less a b >>= fun answer ↦ next answer less

namespace OnlyCompares

variable {xs : List α} {P : β → Prop} {Q : γ → Prop} {less less' : α → α → Except ε Bool}
  {f : (α → α → Except ε Bool) → Except ε β} {g : β → (α → α → Except ε Bool) → Except ε γ}

theorem bind (hf : OnlyCompares xs P f) (hg : ∀ b, P b → OnlyCompares xs Q (g b)) :
    OnlyCompares xs Q fun less ↦ f less >>= fun b ↦ g b less := by
  induction hf with
  | done hb => exact hg _ hb
  | ask ha hb _ ih =>
      simp only [bind_assoc]
      exact .ask ha hb ih

theorem mono {R : β → Prop} (hf : OnlyCompares xs P f) (h : ∀ b, P b → R b) :
    OnlyCompares xs R f := by
  induction hf with
  | done hb => exact .done (h _ hb)
  | ask ha hb _ ih => exact .ask ha hb ih

theorem of_eq_ok {b : β} (hf : OnlyCompares xs P f) (h : f less = .ok b) : P b := by
  induction hf with
  | done hb => exact Except.ok.inj h ▸ hb
  | ask _ _ _ ih =>
      obtain ⟨answer, -, h⟩ := bind_eq_ok_iff.mp h
      exact ih answer h

theorem congr (hf : OnlyCompares xs P f) (hless : ∀ a ∈ xs, ∀ b ∈ xs, less a b = less' a b) :
    f less = f less' := by
  induction hf with
  | done => rfl
  | ask ha hb _ ih =>
      simp only [hless _ ha _ hb, ih]

/-- A computation that succeeds takes the same course wherever it gets the same answers. -/
theorem eq_ok_of_extends {b : β} (hf : OnlyCompares xs P f)
    (hless : ∀ a ∈ xs, ∀ b ∈ xs, ∀ answer, less a b = .ok answer → less' a b = .ok answer)
    (h : f less = .ok b) : f less' = .ok b := by
  induction hf with
  | done => exact h
  | ask ha hb _ ih =>
      obtain ⟨answer, hanswer, h⟩ := bind_eq_ok_iff.mp h
      exact bind_eq_ok_iff.mpr ⟨answer, hless _ ha _ hb answer hanswer, ih answer h⟩

theorem exists_of_eq_error {e : ε} (hf : OnlyCompares xs P f) (h : f less = .error e) :
    ∃ a ∈ xs, ∃ b ∈ xs, less a b = .error e := by
  induction hf with
  | done => contradiction
  | ask ha hb _ ih =>
      rcases bind_eq_error_iff.mp h with h | ⟨answer, -, h⟩
      · exact ⟨_, ha, _, hb, h⟩
      · exact ih answer h

end OnlyCompares

section Keys

variable {κ ι : Type} [LinearOrder κ] [LinearOrder ι] {key : α → κ} {key' : α → ι}
  {less : α → α → Except ε Bool} {xs ys : List α}

def byKey (key : α → κ) (a b : α) : Except ε Bool := .ok (decide (key a < key b))

/-- Wherever a comparison of elements has an answer, it is that of their keys. -/
def Fits (less : α → α → Except ε Bool) (xs : List α) (key : α → κ) : Prop :=
  ∀ a ∈ xs, ∀ b ∈ xs, ∀ answer, less a b = .ok answer → answer = decide (key a < key b)

/-- A sort that only compares, and that sorts stably by whatever key the elements have. -/
structure IsComparisonSort (sort : (α → α → Except ε Bool) → List α → Except ε (List α)) :
    Prop where
  compares : ∀ xs, OnlyCompares xs (·.Perm xs) fun less ↦ sort less xs
  sorts : ∀ {κ : Type} [LinearOrder κ] (key : α → κ) xs,
    ∃ ys, sort (byKey key) xs = .ok ys ∧ IsSortedBy key xs ys

namespace IsComparisonSort

variable {sort : (α → α → Except ε Bool) → List α → Except ε (List α)}

theorem isSortedBy (hsort : IsComparisonSort sort) (hfits : Fits less xs key)
    (h : sort less xs = .ok ys) : IsSortedBy key xs ys := by
  obtain ⟨zs, hzs, hsorted⟩ := hsort.sorts key xs
  have hys : sort (byKey key) xs = .ok ys := by
    refine (hsort.compares xs).eq_ok_of_extends (fun a ha b hb answer hanswer ↦ ?_) h
    exact congrArg Except.ok (hfits a ha b hb answer hanswer).symm
  exact Except.ok.inj (hzs.symm.trans hys) ▸ hsorted

/-- Elements that are always compared by their keys are sorted by them. -/
theorem exists_eq_ok (hsort : IsComparisonSort sort)
    (hless : ∀ a ∈ xs, ∀ b ∈ xs, less a b = byKey key a b) :
    ∃ ys, sort less xs = .ok ys ∧ IsSortedBy key xs ys := by
  obtain ⟨ys, hys, hsorted⟩ := hsort.sorts key xs
  refine ⟨ys, (hsort.compares xs).eq_ok_of_extends ?_ hys, hsorted⟩
  intro a ha b hb answer hanswer
  rw [hless a ha b hb, hanswer]

/-- A sort fails if two keys fit all the answers that it may get, but not each other. -/
theorem exists_eq_error (hsort : IsComparisonSort sort) (hfits : Fits less xs key)
    (hfits' : Fits less xs key') {a b : α} (ha : a ∈ xs) (hb : b ∈ xs) (hlt : key a < key b)
    (hgt : key' b < key' a) : ∃ e, sort less xs = .error e := by
  cases h : sort less xs with
  | error e => exact ⟨e, rfl⟩
  | ok ys =>
      have hperm : ys.Perm xs := (hsort.compares xs).of_eq_ok h
      have hboth := (hsort.isSortedBy hfits h).ascends.and (hsort.isSortedBy hfits' h).ascends
      -- Of any two elements one comes first in `ys`, and so it does by both keys.
      let Agree (x y : α) : Prop :=
        (key x ≤ key y ∧ key' x ≤ key' y) ∨ (key y ≤ key x ∧ key' y ≤ key' x)
      have : Std.Symm Agree := ⟨fun _ _ h ↦ h.symm⟩
      have hagree : Agree a b := by
        have hpairs : ys.Pairwise Agree := hboth.imp .inl
        apply hpairs.forall_of_forall
        · exact fun x _ ↦ .inl ⟨le_rfl, le_rfl⟩
        · exact hperm.mem_iff.mpr ha
        · exact hperm.mem_iff.mpr hb
      rcases hagree with ⟨-, hle⟩ | ⟨hle, -⟩
      · exact absurd hgt hle.not_gt
      · exact absurd hlt hle.not_gt

end IsComparisonSort

end Keys

end OrgService
