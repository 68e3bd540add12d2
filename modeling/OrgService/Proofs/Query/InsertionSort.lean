import OrgService.Proofs.ComparisonSort
import OrgService.Query.Ordering

/-!
# Insertion sort

The insertion sort takes a first run as it is, turned round if it descends, and puts each further
element where a binary search finds its place. It is a comparison sort.
-/

namespace OrgService.InsertionSort

variable {α ε : Type} {zs sorted xs taken : List α} {last x : α} {descending : Bool}

/-! ## Comparisons -/

theorem splitRun_compares (hlast : last ∈ zs) (hxs : xs ⊆ zs) :
    OnlyCompares zs (fun split : List α × List α ↦ (split.1 ++ split.2).Perm (taken ++ xs))
      fun less : α → α → Except ε Bool ↦ splitRun less descending last taken xs := by
  induction xs generalizing last taken with
  | nil => exact .done (.refl _)
  | cons x xs ih =>
      obtain ⟨hx, hxs⟩ := List.cons_subset.mp hxs
      refine .ask hx hlast fun smaller ↦ ?_
      by_cases hsmaller : (smaller == descending) = true
      · simp only [if_pos hsmaller]
        exact (ih hx hxs).mono fun _ h ↦ h.trans List.perm_middle.symm
      · simp only [if_neg hsmaller]
        exact .done (.refl _)

theorem place_of_lt {less : α → α → Except ε Bool} {low high : ℕ} (hlow : low < high)
    (hmiddle : low + (high - low) / 2 < sorted.length) :
    place less sorted.toArray x low high =
      less x sorted[low + (high - low) / 2] >>= fun smaller ↦
        if smaller then place less sorted.toArray x low (low + (high - low) / 2)
        else place less sorted.toArray x (low + (high - low) / 2 + 1) high := by
  rw [place, dif_pos hlow]
  simp only [List.getElem?_toArray, List.getElem?_eq_getElem hmiddle]
  cases less x sorted[low + (high - low) / 2] with
  | error e => rfl
  | ok smaller => cases smaller <;> rfl

theorem place_of_not_lt {less : α → α → Except ε Bool} {low high : ℕ} (hlow : ¬low < high) :
    place less sorted.toArray x low high = .ok low := by
  rw [place, dif_neg hlow]

theorem place_compares (hx : x ∈ zs) (hsorted : sorted ⊆ zs) (low : ℕ) {high : ℕ}
    (hhigh : high ≤ sorted.length) :
    OnlyCompares zs (fun _ ↦ True)
      fun less : α → α → Except ε Bool ↦ place less sorted.toArray x low high := by
  induction hrange : high - low using Nat.strong_induction_on generalizing low high with
  | _ range ih =>
      by_cases hlow : low < high
      · have hmiddle : low + (high - low) / 2 < sorted.length := by omega
        simp only [place_of_lt hlow hmiddle]
        refine .ask hx (hsorted (List.getElem_mem hmiddle)) fun smaller ↦ ?_
        cases smaller with
        | true => exact ih _ (by omega) _ (by omega) rfl
        | false => exact ih _ (by omega) _ hhigh rfl
      · simp only [place_of_not_lt hlow]
        exact .done trivial

theorem insert_perm (sorted : List α) (i : ℕ) (x : α) :
    (sorted.take i ++ x :: sorted.drop i).Perm (x :: sorted) := by
  have hmoved : (sorted.take i ++ x :: sorted.drop i).Perm
      (x :: (sorted.take i ++ sorted.drop i)) := List.perm_middle
  rwa [List.take_append_drop] at hmoved

theorem insertAll_compares (hsorted : sorted ⊆ zs) (hxs : xs ⊆ zs) :
    OnlyCompares zs (·.Perm (sorted ++ xs))
      fun less : α → α → Except ε Bool ↦ insertAll less sorted xs := by
  induction xs generalizing sorted with
  | nil => exact .done (by simp)
  | cons x xs ih =>
      obtain ⟨hx, hxs⟩ := List.cons_subset.mp hxs
      refine (place_compares hx hsorted 0 le_rfl).bind fun i _ ↦ ?_
      have hinserted := insert_perm sorted i x
      have hmem : sorted.take i ++ x :: sorted.drop i ⊆ zs :=
        List.Subset.trans hinserted.subset (List.cons_subset.mpr ⟨hx, hsorted⟩)
      refine (ih hmem hxs).mono fun ys hys ↦ ?_
      exact hys.trans ((hinserted.append_right xs).trans List.perm_middle.symm)

theorem sort_compares (xs : List α) :
    OnlyCompares xs (·.Perm xs) fun less : α → α → Except ε Bool ↦ sort less xs := by
  match xs with
  | [] | [_] => exact .done (.refl _)
  | x :: y :: rest =>
      have hx : x ∈ x :: y :: rest := List.mem_cons_self
      have hy : y ∈ x :: y :: rest := .tail _ List.mem_cons_self
      have hrest : rest ⊆ x :: y :: rest := fun _ h ↦ .tail _ (.tail _ h)
      refine .ask hy hx fun descending ↦ (splitRun_compares hy hrest).bind ?_
      rintro ⟨run, rest'⟩ hsplit
      have hwhole : (run ++ rest').Perm (x :: y :: rest) := hsplit.trans (.swap x y rest)
      have hturned : (if descending then run else run.reverse).Perm run := by
        split
        · exact .refl _
        · exact List.reverse_perm run
      obtain ⟨hrun, hrest'⟩ := List.append_subset.mp hwhole.subset
      have hfirst := List.Subset.trans hturned.subset hrun
      refine (insertAll_compares hfirst hrest').mono fun ys hys ↦ ?_
      exact hys.trans ((hturned.append_right rest').trans hwhole)

/-! ## Order -/

variable {κ : Type} [LinearOrder κ] {key : α → κ} {run rest : List α}

/-- The last element of a run comes first in it, so a run that descends has ascending keys. -/
def Runs (descending : Bool) (key : α → κ) (run : List α) : Prop :=
  run.Pairwise fun a b ↦ decide (key a < key b) = descending

theorem Runs.cons (h : Runs descending key (last :: taken))
    (hx : decide (key x < key last) = descending) : Runs descending key (x :: last :: taken) := by
  refine List.pairwise_cons.mpr ⟨fun a ha ↦ ?_, h⟩
  rcases List.mem_cons.mp ha with rfl | ha
  · exact hx
  · have hlast := (List.pairwise_cons.mp h).1 a ha
    cases descending with
    | true => exact decide_eq_true ((of_decide_eq_true hx).trans (of_decide_eq_true hlast))
    | false =>
        apply decide_eq_false
        have hle := (not_lt.mp (of_decide_eq_false hlast)).trans
          (not_lt.mp (of_decide_eq_false hx))
        exact hle.not_gt

theorem Runs.isSortedBy (h : Runs descending key run) :
    IsSortedBy key run.reverse (if descending then run else run.reverse) := by
  cases descending with
  | true => exact .of_strict (h.imp of_decide_eq_true)
  | false =>
      refine ⟨?_, fun _ ↦ rfl⟩
      apply List.pairwise_reverse.mpr
      exact h.imp fun hlt ↦ not_lt.mp (of_decide_eq_false hlt)

theorem exists_splitRun_eq_ok (h : Runs descending key (last :: taken)) (xs : List α) :
    ∃ run rest, splitRun (byKey key) descending last (last :: taken) xs =
        (.ok (run, rest) : Except ε _) ∧
      run.reverse ++ rest = (last :: taken).reverse ++ xs ∧ Runs descending key run := by
  induction xs generalizing last taken with
  | nil => exact ⟨last :: taken, [], rfl, rfl, h⟩
  | cons x xs ih =>
      by_cases hx : decide (key x < key last) = descending
      · obtain ⟨run, rest, hsplit, happend, hrun⟩ := ih (h.cons hx)
        refine ⟨run, rest, ?_, by simpa using happend, hrun⟩
        rw [← hsplit, splitRun, byKey]
        exact if_pos (beq_iff_eq.mpr hx)
      · refine ⟨last :: taken, x :: xs, ?_, rfl, h⟩
        rw [splitRun, byKey]
        exact if_neg (mt beq_iff_eq.mp hx)

section Place

variable (hsorted : sorted.Pairwise fun a b ↦ key a ≤ key b) {m : ℕ} (hm : m < sorted.length)

include hsorted

theorem lt_of_mem_drop (hlt : key x < key sorted[m]) : ∀ a ∈ sorted.drop m, key x < key a := by
  intro a ha
  have hsuffix := hsorted.drop (i := m)
  rw [List.drop_eq_getElem_cons hm] at ha hsuffix
  exact hlt.trans_le (le_of_mem_cons hsuffix ha)

theorem le_of_mem_take (hle : key sorted[m] ≤ key x) :
    ∀ a ∈ sorted.take (m + 1), key a ≤ key x := by
  intro a ha
  have hprefix := hsorted.take (i := m + 1)
  rw [← List.take_append_getElem hm] at ha hprefix
  rcases List.mem_append.mp ha with ha | ha
  · have hlast := (List.pairwise_append.mp hprefix).2.2 a ha
    exact (hlast _ (List.mem_singleton.mpr rfl)).trans hle
  · exact List.mem_singleton.mp ha ▸ hle

/-- The search narrows a range: what lies before it belongs before the element, what lies behind
it belongs behind. -/
theorem exists_place_eq_ok {low high : ℕ} (hhigh : high ≤ sorted.length) (hle : low ≤ high)
    (hbefore : ∀ a ∈ sorted.take low, key a ≤ key x)
    (hafter : ∀ a ∈ sorted.drop high, key x < key a) :
    ∃ i, place (byKey key) sorted.toArray x low high = (.ok i : Except ε ℕ) ∧
      (∀ a ∈ sorted.take i, key a ≤ key x) ∧ ∀ a ∈ sorted.drop i, key x < key a := by
  induction hrange : high - low using Nat.strong_induction_on generalizing low high with
  | _ range ih =>
      by_cases hlow : low < high
      · have hmiddle : low + (high - low) / 2 < sorted.length := by omega
        rw [place_of_lt hlow hmiddle]
        generalize hm : low + (high - low) / 2 = m at hmiddle
        simp only [byKey, bind, Except.bind]
        by_cases hlt : key x < key sorted[m]
        · simp only [hlt, decide_true, if_true]
          have hsuffix := lt_of_mem_drop hsorted hmiddle hlt
          exact ih _ (by omega) (by omega) (by omega) hbefore hsuffix rfl
        · simp only [hlt, decide_false, Bool.false_eq_true, if_false]
          have hprefix := le_of_mem_take hsorted hmiddle (not_lt.mp hlt)
          exact ih _ (by omega) hhigh (by omega) hprefix hafter rfl
      · obtain rfl : low = high := by omega
        exact ⟨low, place_of_not_lt hlow, hbefore, hafter⟩

end Place

theorem exists_insertAll_eq_ok (h : IsSortedBy key zs sorted) (xs : List α) :
    ∃ ys, insertAll (byKey key) sorted xs = (.ok ys : Except ε _) ∧
      IsSortedBy key (zs ++ xs) ys := by
  induction xs generalizing zs sorted with
  | nil => exact ⟨sorted, rfl, by simpa using h⟩
  | cons x xs ih =>
      obtain ⟨i, hplace, hbefore, hafter⟩ :=
        exists_place_eq_ok h.ascends le_rfl (Nat.zero_le _) (by simp) (by simp)
      obtain ⟨ys, hys, hsorted⟩ := ih (h.insert hbefore hafter)
      refine ⟨ys, ?_, by simpa using hsorted⟩
      rw [insertAll, hplace]
      exact hys

theorem isComparisonSort : IsComparisonSort (sort : (α → α → Except ε Bool) → _) where
  compares := sort_compares
  sorts key xs := by
    match xs with
    | [] | [_] => exact ⟨_, rfl, by simp, fun _ ↦ rfl⟩
    | x :: y :: rest =>
        have hfirst : Runs (decide (key y < key x)) key [y, x] := List.pairwise_pair.mpr rfl
        obtain ⟨run, rest', hsplit, happend, hrun⟩ := exists_splitRun_eq_ok hfirst rest
        obtain ⟨ys, hys, hsorted⟩ := exists_insertAll_eq_ok hrun.isSortedBy rest'
        rw [happend] at hsorted
        refine ⟨ys, ?_, hsorted⟩
        apply bind_eq_ok_iff.mpr
        exact ⟨_, rfl, bind_eq_ok_iff.mpr ⟨_, hsplit, hys⟩⟩

/-! ## Images -/

section images

variable {β : Type} {less : β → β → Except ε Bool}

theorem splitRun_map (f : α → β) (descending : Bool) (last : α) (taken xs : List α) :
    splitRun less descending (f last) (taken.map f) (xs.map f) =
      (splitRun (fun a b ↦ less (f a) (f b)) descending last taken xs).map
        (Prod.map (List.map f) (List.map f)) := by
  induction xs generalizing last taken with
  | nil => rfl
  | cons x xs ih =>
      rw [List.map_cons, splitRun, splitRun]
      cases less (f x) (f last) with
      | error e => rfl
      | ok smaller =>
          by_cases hsmaller : (smaller == descending) = true
          · simp only [bind, Except.bind, if_pos hsmaller]
            exact ih x (x :: taken)
          · simp only [bind, Except.bind, if_neg hsmaller]
            rfl

theorem place_map (f : α → β) (sorted : List α) (x : α) (low high : ℕ) :
    place less (sorted.map f).toArray (f x) low high =
      place (fun a b ↦ less (f a) (f b)) sorted.toArray x low high := by
  fun_induction place (fun a b ↦ less (f a) (f b)) sorted.toArray x low high with
  | case1 low high hlow middle hnone =>
      rw [place, dif_pos hlow]
      simp_all [middle]
  | case2 low high hlow middle y hy e hless =>
      rw [place, dif_pos hlow]
      simp_all [middle]
  | case3 low high hlow middle y hy hless ih =>
      rw [place, dif_pos hlow]
      simp_all [middle]
  | case4 low high hlow middle y hy hless ih =>
      rw [place, dif_pos hlow]
      simp_all [middle]
  | case5 low high hlow => rw [place, dif_neg hlow]

theorem insertAll_map (f : α → β) (sorted xs : List α) :
    insertAll less (sorted.map f) (xs.map f) =
      (insertAll (fun a b ↦ less (f a) (f b)) sorted xs).map (List.map f) := by
  induction xs generalizing sorted with
  | nil => rfl
  | cons x xs ih =>
      rw [List.map_cons, insertAll, insertAll, place_map, List.length_map]
      cases place (fun a b ↦ less (f a) (f b)) sorted.toArray x 0 sorted.length with
      | error e => rfl
      | ok i =>
          have hinserted : (sorted.map f).take i ++ f x :: (sorted.map f).drop i =
              (sorted.take i ++ x :: sorted.drop i).map f := by simp
          simp only [bind, Except.bind, hinserted]
          exact ih _

/-- To sort images is to sort the elements by how their images compare. -/
theorem sort_map (f : α → β) (xs : List α) :
    sort less (xs.map f) = (sort (fun a b ↦ less (f a) (f b)) xs).map (List.map f) := by
  match xs with
  | [] | [_] => rfl
  | x :: y :: rest =>
      simp only [List.map_cons, sort]
      cases less (f y) (f x) with
      | error e => rfl
      | ok descending =>
          have hsplit : splitRun less descending (f y) [f y, f x] (rest.map f) = _ :=
            splitRun_map f descending y [y, x] rest
          simp only [bind, Except.bind, hsplit]
          cases splitRun (fun a b ↦ less (f a) (f b)) descending y [y, x] rest with
          | error e => rfl
          | ok split =>
              have hrun : (if descending then split.1.map f else (split.1.map f).reverse) =
                  (if descending then split.1 else split.1.reverse).map f := by
                cases descending <;> simp
              change insertAll less (if descending then split.1.map f else (split.1.map f).reverse)
                (split.2.map f) = _
              rw [hrun]
              exact insertAll_map f _ _

end images

end OrgService.InsertionSort
