import Mathlib.Data.List.Basic
import Mathlib.Data.Prod.Lex

/-!
# Stable sorting by a key

A list is sorted by a key, and stably so, if the keys ascend and the elements with one key stand
in the order in which they were given. There is one such list; what is sorted of a part of a list
is a part of what is sorted of the whole; and two passes sort by two keys, the later one first.
-/

namespace OrgService

variable {α κ ι : Type} [LinearOrder κ] [LinearOrder ι] {f : α → κ} {g : α → ι}
  {xs xs' ys ys' zs : List α}

/-- The second list holds the first one sorted by a key, elements with one key in their order. -/
structure IsSortedBy (f : α → κ) (xs ys : List α) : Prop where
  ascends : ys.Pairwise fun a b ↦ f a ≤ f b
  keeps : ∀ k, (ys.filter fun a ↦ f a = k) = xs.filter fun a ↦ f a = k

theorem le_of_mem_cons {x a : α} (h : (x :: xs).Pairwise fun a b ↦ f a ≤ f b) (ha : a ∈ x :: xs) :
    f x ≤ f a := by
  rcases List.mem_cons.mp ha with rfl | ha
  · exact le_rfl
  · exact (List.pairwise_cons.mp h).1 a ha

/-- Of two lists with ascending keys one is part of the other if this is so key by key. -/
theorem sublist_of_filter_key (hxs : xs.Pairwise fun a b ↦ f a ≤ f b)
    (hys : ys.Pairwise fun a b ↦ f a ≤ f b)
    (h : ∀ k, (xs.filter fun a ↦ f a = k).Sublist (ys.filter fun a ↦ f a = k)) :
    xs.Sublist ys := by
  induction ys generalizing xs with
  | nil =>
      have hnone : ∀ a, a ∉ xs := fun a ha ↦ by
        simpa using (h (f a)).subset (List.mem_filter.mpr ⟨ha, by simp⟩)
      rw [List.eq_nil_iff_forall_not_mem.mpr hnone]
  | cons y ys ih =>
      cases xs with
      | nil => exact List.nil_sublist _
      | cons x xs =>
          have hother : ∀ k, f y ≠ k →
              ((x :: xs).filter fun a ↦ f a = k).Sublist (ys.filter fun a ↦ f a = k) := by
            intro k hk
            have hk' := h k
            rwa [List.filter_cons_of_neg (a := y) (by simpa using hk)] at hk'
          by_cases hkey : f x = f y
          · have hhere := h (f y)
            rw [List.filter_cons_of_pos (by simp [hkey]), List.filter_cons_of_pos (by simp)]
              at hhere
            -- Either the heads are one element, or `y` has no counterpart in `x :: xs`.
            cases hhere with
            | cons_cons _ hrest =>
                refine (ih hxs.of_cons hys.of_cons fun k ↦ ?_).cons_cons _
                by_cases hk : f y = k
                · exact hk ▸ hrest
                · have hk' := hother k hk
                  rwa [List.filter_cons_of_neg (by simpa using hk)] at hk'
            | cons _ hrest =>
                refine (ih hxs hys.of_cons fun k ↦ ?_).cons y
                by_cases hk : f y = k
                · rw [← hk, List.filter_cons_of_pos (by simp [hkey])]
                  exact hrest
                · exact hother k hk
          · -- The key of `x` occurs in `y :: ys`, so that of `y` lies before all keys of `x :: xs`.
            have hlt : f y < f x := by
              have hx := (h (f x)).subset (List.mem_filter.mpr ⟨List.mem_cons_self, by simp⟩)
              exact lt_of_le_of_ne (le_of_mem_cons hys (List.mem_filter.mp hx).1) (Ne.symm hkey)
            refine (ih hxs hys.of_cons fun k ↦ ?_).cons y
            by_cases hk : f y = k
            · have hnone : ((x :: xs).filter fun a ↦ f a = k) = [] := by
                apply List.filter_eq_nil_iff.mpr
                intro a ha
                simpa [← hk] using (hlt.trans_le (le_of_mem_cons hxs ha)).ne'
              rw [hnone]
              exact List.nil_sublist _
            · exact hother k hk

namespace IsSortedBy

/-- What is sorted of a part of a list is part of what is sorted of the whole list. -/
theorem sublist (hys : IsSortedBy f xs ys) (hys' : IsSortedBy f xs' ys') (h : xs.Sublist xs') :
    ys.Sublist ys' := by
  refine sublist_of_filter_key hys.ascends hys'.ascends fun k ↦ ?_
  rw [hys.keeps, hys'.keeps]
  exact h.filter _

theorem unique (hys : IsSortedBy f xs ys) (hys' : IsSortedBy f xs ys') : ys = ys' :=
  (hys.sublist hys' (.refl xs)).antisymm (hys'.sublist hys (.refl xs))

/-- Sorting by one key after sorting by another one sorts by both, the later key first. -/
theorem andThen (hys : IsSortedBy g xs ys) (hzs : IsSortedBy f ys zs) :
    IsSortedBy (fun a ↦ toLex (f a, g a)) xs zs where
  ascends := by
    rw [List.pairwise_iff_forall_sublist]
    intro a b hab
    rw [Prod.Lex.toLex_le_toLex]
    rcases (List.pairwise_iff_forall_sublist.mp hzs.ascends hab).lt_or_eq with hlt | heq
    · exact .inl hlt
    · -- Elements with one key come from `ys` in this order, where the other keys ascend.
      refine .inr ⟨heq, ?_⟩
      have hclass := hab.filter fun c ↦ f c = f b
      rw [hzs.keeps] at hclass
      have hpair : [a, b].filter (fun c ↦ f c = f b) = [a, b] := by simp [heq]
      rw [hpair] at hclass
      exact List.pairwise_iff_forall_sublist.mp hys.ascends (hclass.trans List.filter_sublist)
  keeps := by
    rintro ⟨k, l⟩
    have hboth : ∀ as : List α, (as.filter fun a ↦ toLex (f a, g a) = toLex (k, l)) =
        (as.filter fun a ↦ f a = k).filter fun a ↦ g a = l := by
      intro as
      rw [List.filter_filter]
      exact List.filter_congr fun a _ ↦ by simp [Bool.and_comm]
    calc (zs.filter fun a ↦ toLex (f a, g a) = toLex (k, l))
        = (zs.filter fun a ↦ f a = k).filter fun a ↦ g a = l := hboth zs
      _ = (ys.filter fun a ↦ g a = l).filter fun a ↦ f a = k := by
          rw [hzs.keeps, List.filter_comm]
      _ = (xs.filter fun a ↦ f a = k).filter fun a ↦ g a = l := by
          rw [hys.keeps, List.filter_comm]
      _ = xs.filter fun a ↦ toLex (f a, g a) = toLex (k, l) := (hboth xs).symm

/-- An element goes behind those that were given before it and do not come after it. -/
theorem insert (hys : IsSortedBy f xs ys) {x : α} {i : ℕ} (hbefore : ∀ a ∈ ys.take i, f a ≤ f x)
    (hafter : ∀ a ∈ ys.drop i, f x < f a) :
    IsSortedBy f (xs ++ [x]) (ys.take i ++ x :: ys.drop i) where
  ascends := by
    have hsplit := hys.ascends
    rw [← List.take_append_drop i ys, List.pairwise_append] at hsplit
    obtain ⟨htake, hdrop, -⟩ := hsplit
    refine List.pairwise_append.mpr ⟨htake, ?_, ?_⟩
    · exact List.pairwise_cons.mpr ⟨fun b hb ↦ (hafter b hb).le, hdrop⟩
    · intro a ha b hb
      rcases List.mem_cons.mp hb with rfl | hb
      · exact hbefore a ha
      · exact (hbefore a ha).trans (hafter b hb).le
  keeps := by
    intro k
    have hclass := hys.keeps k
    rw [← List.take_append_drop i ys, List.filter_append] at hclass
    rw [List.filter_append, List.filter_append, ← hclass]
    by_cases hk : f x = k
    · have hnone : (ys.drop i).filter (fun a ↦ f a = k) = [] := by
        apply List.filter_eq_nil_iff.mpr
        intro a ha
        simpa [← hk] using (hafter a ha).ne'
      simp [hk, hnone]
    · simp [hk]

theorem reverse (hys : IsSortedBy f xs ys) :
    IsSortedBy (OrderDual.toDual ∘ f) xs.reverse ys.reverse where
  ascends := List.pairwise_reverse.mpr hys.ascends
  keeps k := by
    rw [List.filter_reverse, List.filter_reverse]
    exact congrArg List.reverse (hys.keeps (OrderDual.ofDual k))

/-- Keys that differ leave nothing to keep in order. -/
theorem of_strict (h : ys.Pairwise fun a b ↦ f a < f b) : IsSortedBy f ys.reverse ys where
  ascends := h.imp le_of_lt
  keeps k := by
    have hclass : (ys.filter fun a ↦ f a = k).Pairwise fun a b ↦ f a < f b := h.filter _
    have hkeys : ∀ a ∈ ys.filter fun a ↦ f a = k, f a = k := fun a ha ↦
      of_decide_eq_true (List.mem_filter.mp ha).2
    rw [List.filter_reverse]
    generalize (ys.filter fun a ↦ f a = k) = as at hclass hkeys
    match as with
    | [] | [_] => rfl
    | a :: b :: _ =>
        have hlt := (List.pairwise_cons.mp hclass).1 b List.mem_cons_self
        rw [hkeys a List.mem_cons_self, hkeys b (.tail _ List.mem_cons_self)] at hlt
        exact absurd hlt (lt_irrefl k)

end IsSortedBy

/-- Merge sort sorts by a key if it compares the given elements by their keys. -/
theorem isSortedBy_mergeSort {le : α → α → Bool}
    (hle : ∀ a ∈ xs, ∀ b ∈ xs, le a b = decide (f a ≤ f b)) :
    IsSortedBy f xs (xs.mergeSort le) := by
  have hcongr : xs.mergeSort le = xs.mergeSort fun a b ↦ f a ≤ f b := by
    simpa using List.map_mergeSort (f := id) hle
  have htrans : ∀ a b c : α, decide (f a ≤ f b) = true → decide (f b ≤ f c) = true →
      decide (f a ≤ f c) = true := by
    simpa using fun a b c ↦ le_trans (a := f a) (b := f b) (c := f c)
  have htotal : ∀ a b : α, (decide (f a ≤ f b) || decide (f b ≤ f a)) = true := by
    simpa using fun a b ↦ le_total (f a) (f b)
  rw [hcongr]
  constructor
  · simpa using List.pairwise_mergeSort htrans htotal xs
  · intro k
    -- The elements with one key are sorted as they stand, so merge sort leaves them in order.
    have hclass : (xs.filter fun a ↦ f a = k).Pairwise fun a b ↦ decide (f a ≤ f b) = true := by
      refine List.pairwise_of_forall_mem_list fun a ha b hb ↦ ?_
      have ha := of_decide_eq_true (List.mem_filter.mp ha).2
      have hb := of_decide_eq_true (List.mem_filter.mp hb).2
      simp [ha, hb]
    have hsub := (List.sublist_mergeSort htrans htotal hclass List.filter_sublist).filter
      fun a ↦ f a = k
    simp only [List.filter_filter, Bool.and_self] at hsub
    refine (hsub.eq_of_length ?_).symm
    exact ((List.mergeSort_perm xs _).filter _).length_eq.symm

end OrgService
