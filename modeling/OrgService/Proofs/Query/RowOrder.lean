import OrgService.Proofs.Query.InsertionSort

/-!
# Sorting permutes rows

However rows are sorted, by merging or, where a NaN is among the keys, by insertion, the sorted
rows are the given ones in another order.
-/

namespace OrgService

namespace JoinedRow

variable {order : Order} {rows sorted : List JoinedRow}

theorem sortCarefully_perm (h : sortCarefully order rows = .ok sorted) : sorted.Perm rows := by
  obtain ⟨attr, direction⟩ := order
  cases direction with
  | ascending =>
      exact (InsertionSort.sort_compares rows).of_eq_ok (mapError_eq_ok_iff.mp h)
  | descending =>
      obtain ⟨reversed, hreversed, rfl⟩ := map_eq_ok_iff.mp (mapError_eq_ok_iff.mp h)
      have hperm := (InsertionSort.sort_compares rows.reverse).of_eq_ok hreversed
      exact (List.reverse_perm reversed).trans (hperm.trans (List.reverse_perm rows))

theorem sortBy_perm (h : sortBy order rows = .ok sorted) : sorted.Perm rows := by
  simp only [sortBy] at h
  split at h
  · exact sortCarefully_perm h
  · split at h
    · obtain rfl := Except.ok.inj h
      exact List.mergeSort_perm _ _
    · contradiction

/-- The first order sorts what all others have sorted. -/
theorem sortAll_cons (order : Order) (orders : List Order) (rows : List JoinedRow) :
    sortAll (order :: orders) rows = sortAll orders rows >>= sortBy order := by
  simp [sortAll, List.foldlM_append]

/-- Sorting by a list of orders keeps all rows. -/
theorem sortAll_perm {orders : List Order} (h : sortAll orders rows = .ok sorted) :
    sorted.Perm rows := by
  induction orders generalizing sorted with
  | nil =>
      obtain rfl := Except.ok.inj h
      exact .refl _
  | cons order orders ih =>
      rw [sortAll_cons] at h
      obtain ⟨once, honce, h⟩ := bind_eq_ok_iff.mp h
      exact (sortBy_perm h).trans (ih honce)

end JoinedRow

end OrgService
