import OrgService.Proofs.Query.Clash
import OrgService.Proofs.Query.RowOrder

/-!
# Failures of sorting

Sorting fails because two of the sorted elements cannot be compared. For rows this means that
their values are of different kinds, or that a NaN meets a decimal in two different records.
-/

namespace OrgService

/-- Two records whose values under a name cannot be ordered because of a NaN. -/
structure Record.OrderClash (attr : Json) (r r' : Record) : Prop where
  differ : (r.logicalName, r.id) ≠ (r'.logicalName, r'.id)
  clash : ∃ v w, r.present? attr = some v ∧ r'.present? attr = some w ∧ v.OrderClash w

namespace SortKey

theorem valueLess_eq_error {sameRecord : Bool} {v w : Comparable} {e : Failure}
    (h : valueLess sameRecord v w = .error e) :
    e = .incomparable ∨ sameRecord = false ∧ v.OrderClash w ∧ e = .breakdown .nanComparison := by
  cases sameRecord with
  | true => contradiction
  | false =>
      rw [valueLess, if_neg Bool.false_ne_true] at h
      cases hequal : v.equal w with
      | error cause =>
          obtain ⟨rfl, hclash⟩ := Comparable.equal_eq_error_iff.mp hequal
          rw [hequal] at h
          exact .inr ⟨rfl, hclash.orderClash, (Except.error.inj h).symm⟩
      | ok equal =>
          rw [hequal] at h
          cases equal with
          | true => contradiction
          | false =>
              cases horder : v.compare? w with
              | none =>
                  simp only [horder] at h
                  exact .inl (Except.error.inj h).symm
              | some order =>
                  cases order with
                  | error cause =>
                      obtain ⟨rfl, hclash⟩ := Comparable.compare?_eq_error_iff.mp horder
                      simp only [horder] at h
                      exact .inr ⟨rfl, hclash, (Except.error.inj h).symm⟩
                  | ok o =>
                      simp only [horder] at h
                      contradiction

theorem less_eq_error {a b : SortKey} {e : Failure} (h : a.less b = .error e) :
    e = .incomparable ∨ a.record ≠ b.record ∧
      (∃ v w, a.value = some v ∧ b.value = some w ∧ v.OrderClash w) ∧
      e = .breakdown .nanComparison := by
  unfold less at h
  cases hv : a.value with
  | none => cases hw : b.value <;> simp [hv, hw] at h
  | some v =>
      cases hw : b.value with
      | none => simp [hv, hw] at h
      | some w =>
          simp only [hv, hw] at h
          refine (valueLess_eq_error h).imp_right ?_
          rintro ⟨hdiffer, hclash, rfl⟩
          exact ⟨by simpa using hdiffer, ⟨v, w, rfl, rfl, hclash⟩, rfl⟩

end SortKey

namespace JoinedRow

variable {order : Order} {orders : List Order} {rows : List JoinedRow}

/-- Two rows that an order must compare have base records that clash. -/
def OrderClash (attr : Json) (rows : List JoinedRow) : Prop :=
  ∃ a ∈ rows, ∃ b ∈ rows, a.base.OrderClash attr b.base

theorem OrderClash.of_perm {attr : Json} {current : List JoinedRow}
    (h : OrderClash attr current) (hperm : current.Perm rows) : OrderClash attr rows := by
  obtain ⟨a, ha, b, hb, hclash⟩ := h
  exact ⟨a, hperm.mem_iff.mp ha, b, hperm.mem_iff.mp hb, hclash⟩

theorem sortCarefully_failsOnlyBy :
    FailsOnlyBy (fun cause ↦ cause = .nanComparison ∧ OrderClash order.attr rows)
      (sortCarefully order rows) := by
  intro fault h
  obtain ⟨attr, direction⟩ := order
  obtain ⟨e, he, rfl⟩ := mapError_eq_error_iff.mp h
  have hsort : ∃ xs, (∀ x ∈ xs, x ∈ rows) ∧
      InsertionSort.sort (fun a b ↦ (a.sortKey attr).less (b.sortKey attr)) xs = .error e := by
    cases direction with
    | ascending => exact ⟨rows, fun _ ↦ id, he⟩
    | descending => exact ⟨rows.reverse, fun _ ↦ List.mem_reverse.mp, map_eq_error_iff.mp he⟩
  obtain ⟨xs, hxs, hsort⟩ := hsort
  obtain ⟨a, ha, b, hb, hless⟩ := (InsertionSort.sort_compares xs).exists_of_eq_error hsort
  rcases SortKey.less_eq_error hless with rfl | ⟨hdiffer, hclash, rfl⟩
  · exact .inl ⟨_, rfl⟩
  · exact .inr ⟨_, ⟨rfl, a, hxs a ha, b, hxs b hb, hdiffer, hclash⟩, rfl⟩

theorem sortBy_failsOnlyBy :
    FailsOnlyBy (fun cause ↦ cause = .nanComparison ∧ OrderClash order.attr rows)
      (sortBy order rows) := by
  simp only [sortBy]
  split
  · exact sortCarefully_failsOnlyBy
  · split
    · exact .ok _
    · exact .query _

/-- Sorting breaks down only if the base records of two rows clash under one of the orders. -/
theorem sortAll_failsOnlyBy :
    FailsOnlyBy (fun cause ↦ cause = .nanComparison ∧ ∃ o ∈ orders, OrderClash o.attr rows)
      (sortAll orders rows) := by
  induction orders with
  | nil => exact .ok rows
  | cons o os ih =>
      rw [sortAll_cons]
      refine FailsOnlyBy.bind (ih.mono fun cause hcause ↦ ?_) fun once honce ↦ ?_
      · obtain ⟨rfl, o', ho', hclash⟩ := hcause
        exact ⟨rfl, o', List.mem_cons_of_mem o ho', hclash⟩
      · -- The last pass sorts what the others made of the rows, which are still the same rows.
        refine sortBy_failsOnlyBy.mono fun cause hcause ↦ ?_
        exact ⟨hcause.1, o, List.mem_cons_self, hcause.2.of_perm (sortAll_perm honce)⟩

end JoinedRow

end OrgService
