import Mathlib
import OrgService.Proofs.Query.Clash
import OrgService.Proofs.Query.Policies
import OrgService.Proofs.Query.RowOrder
import OrgService.Proofs.StableSort
import OrgService.Proofs.Value.Order

/-!
# Sorting is stable and lexicographic

A list of orders sorts rows by the first order, those it ties by the second and so on, and rows
tied by all of them stay in the order in which they were given. The passes of the sort, one for each
order and the last one first, come to the same, since the values of an attribute that can be sorted
lie on one line. A limit keeps the first rows of the sorted ones.
-/

namespace OrgService

/-- One value comes before another; a missing one comes before all that are present. -/
inductive Comparable.Precedes : Option Comparable → Option Comparable → Prop
  | missing (v : Comparable) : Precedes none (some v)
  | less {v w : Comparable} (h : v.compare? w = some (.ok (some .lt))) : Precedes (some v) (some w)

namespace Order

/-- One row comes before another by the values of the base records, in the given direction. -/
def Precedes (o : Order) (a b : JoinedRow) : Prop :=
  match o.direction with
  | .ascending => Comparable.Precedes (a.base.present? o.attr) (b.base.present? o.attr)
  | .descending => Comparable.Precedes (b.base.present? o.attr) (a.base.present? o.attr)

def Ties (o : Order) (a b : JoinedRow) : Prop := ¬o.Precedes a b ∧ ¬o.Precedes b a

end Order

namespace JoinedRow

/-- One row comes before another by the first order that does not tie them. -/
def Precedes : List Order → JoinedRow → JoinedRow → Prop
  | [], _, _ => False
  | o :: os, a, b => o.Precedes a b ∨ o.Ties a b ∧ Precedes os a b

/-- The rows in the order of a list of orders, tied ones as they were given. -/
structure IsSorting (orders : List Order) (rows sorted : List JoinedRow) : Prop where
  rearranges : sorted.Perm rows
  ascends : sorted.Pairwise fun a b ↦ ¬Precedes orders b a
  stable : ∀ tied : List JoinedRow, tied.Sublist rows →
    (tied.Pairwise fun a b ↦ ∀ o ∈ orders, o.Ties a b) → tied.Sublist sorted

def NaNFree (attr : Json) (rows : List JoinedRow) : Prop :=
  ∀ row ∈ rows, ∀ v ∈ row.base.present? attr, v.isNaN = false

variable {κ : Type} [LinearOrder κ] {key : JoinedRow → κ} {o : Order} {orders : List Order}
  {rows rows' sorted sorted' xs : List JoinedRow}

/-! ## Keys -/

/-- The places of keys are in the order in which the rows are to come. -/
structure Represents (orders : List Order) (rows : List JoinedRow) (key : JoinedRow → κ) :
    Prop where
  lt : ∀ a ∈ rows, ∀ b ∈ rows, (Precedes orders a b ↔ key a < key b)
  eq : ∀ a ∈ rows, ∀ b ∈ rows, ((∀ o ∈ orders, o.Ties a b) ↔ key a = key b)

theorem Represents.mono (h : Represents orders rows' key) (hsub : rows ⊆ rows') :
    Represents orders rows key where
  lt a ha b hb := h.lt a (hsub ha) b (hsub hb)
  eq a ha b hb := h.eq a (hsub ha) b (hsub hb)

theorem Represents.isSorting (h : Represents orders rows key) (hperm : sorted.Perm rows)
    (hsorted : IsSortedBy key rows sorted) : IsSorting orders rows sorted where
  rearranges := hperm
  ascends := by
    refine hsorted.ascends.imp_of_mem fun ha hb hle ↦ ?_
    rw [h.lt _ (hperm.subset hb) _ (hperm.subset ha)]
    exact hle.not_gt
  stable tied hsub htied := by
    cases tied with
    | nil => exact List.nil_sublist _
    | cons a tied =>
        -- Tied rows have one key, and the rows with this key are in the same order as before.
        have hkey : ∀ b ∈ a :: tied, key b = key a := by
          intro b hb
          rcases List.mem_cons.mp hb with rfl | hb
          · rfl
          · have hties := (List.pairwise_cons.mp htied).1 b hb
            have hmem : b ∈ rows := hsub.subset (List.mem_cons_of_mem a hb)
            exact ((h.eq a (hsub.subset List.mem_cons_self) b hmem).mp hties).symm
        have hclass : (a :: tied).Sublist (rows.filter fun b ↦ key b = key a) := by
          rw [← List.filter_eq_self.mpr fun b hb ↦ decide_eq_true (hkey b hb)]
          exact hsub.filter _
        rw [← hsorted.keeps] at hclass
        exact hclass.trans List.filter_sublist

theorem Represents.isSortedBy (h : Represents orders rows key)
    (hsorting : IsSorting orders rows sorted) : IsSortedBy key rows sorted where
  ascends := by
    refine hsorting.ascends.imp_of_mem fun ha hb hle ↦ ?_
    rw [h.lt _ (hsorting.rearranges.subset hb) _ (hsorting.rearranges.subset ha)] at hle
    exact not_lt.mp hle
  keeps k := by
    have htied : (rows.filter fun a ↦ key a = k).Pairwise fun a b ↦ ∀ o ∈ orders, o.Ties a b := by
      apply List.pairwise_of_forall_mem_list
      intro a ha b hb
      obtain ⟨ha, hka⟩ := List.mem_filter.mp ha
      obtain ⟨hb, hkb⟩ := List.mem_filter.mp hb
      apply (h.eq a ha b hb).mpr
      exact (of_decide_eq_true hka).trans (of_decide_eq_true hkb).symm
    have hsub := (hsorting.stable _ List.filter_sublist htied).filter fun a ↦ key a = k
    simp only [List.filter_filter, Bool.and_self] at hsub
    exact (hsub.eq_of_length (hsorting.rearranges.filter _).length_eq.symm).symm

/-! ## One order -/

/-- The values of an attribute are of one kind, and none of them is a NaN. -/
def IsUniform (attr : Json) (rows : List JoinedRow) : Prop :=
  ∃ kind, ∀ row ∈ rows, ∀ v ∈ row.base.present? attr, v.orderingKind = kind ∧ v.isNaN = false

/-- Where a row lies by the value of an attribute, those without one before all others. -/
def place (attr : Json) (row : JoinedRow) : WithBot Comparable.Line :=
  match row.base.present? attr with
  | none => ⊥
  | some v => v.place

theorem value_sortKey (attr : Json) (row : JoinedRow) :
    (row.sortKey attr).value = row.base.present? attr := rfl

theorem order_sortKey {attr : Json} (h : IsUniform attr rows) {a b : JoinedRow} (ha : a ∈ rows)
    (hb : b ∈ rows) :
    (a.sortKey attr).order (b.sortKey attr) = compare (a.place attr) (b.place attr) := by
  obtain ⟨kind, huniform⟩ := h
  unfold SortKey.order place
  rw [value_sortKey, value_sortKey]
  cases hv : a.base.present? attr with
  | none =>
      cases b.base.present? attr with
      | none => simp
      | some w => exact (compare_lt_iff_lt.mpr (WithBot.bot_lt_coe w.place)).symm
  | some v =>
      cases hw : b.base.present? attr with
      | none => exact (compare_gt_iff_gt.mpr (WithBot.bot_lt_coe v.place)).symm
      | some w =>
          obtain ⟨hkind, hnan⟩ := huniform a ha v hv
          obtain ⟨hkind', hnan'⟩ := huniform b hb w hw
          exact (Comparable.order_eq (hkind.trans hkind'.symm) hnan hnan').trans
            (compare_map WithBot.coe_strictMono v.place w.place).symm

theorem precedes_iff {attr : Json} {a b : JoinedRow} :
    Comparable.Precedes (a.base.present? attr) (b.base.present? attr) ↔
      (a.sortKey attr).order (b.sortKey attr) = .lt := by
  unfold SortKey.order
  rw [value_sortKey, value_sortKey]
  constructor
  · intro h
    generalize a.base.present? attr = v, b.base.present? attr = w at h
    cases h with
    | missing v => rfl
    | less h => simp [Comparable.order, h]
  · intro h
    cases hv : a.base.present? attr with
    | none =>
        cases hw : b.base.present? attr with
        | none => simp [hv, hw] at h
        | some w => exact .missing w
    | some v =>
        cases hw : b.base.present? attr with
        | none => simp [hv, hw] at h
        | some w =>
            simp only [hv, hw, Comparable.order] at h
            split at h
            · exact .less (h ▸ ‹_›)
            · contradiction

def values (attr : Json) (rows : List JoinedRow) : List Comparable :=
  rows.filterMap fun row ↦ row.base.present? attr

theorem mem_values {attr : Json} {v : Comparable} :
    v ∈ values attr rows ↔ ∃ row ∈ rows, row.base.present? attr = some v := List.mem_filterMap

theorem uniform_iff {vs : List Comparable} :
    uniform vs = true ↔ ∀ v ∈ vs, ∀ w ∈ vs, v.orderingKind = w.orderingKind := by
  cases vs with
  | nil => simp [uniform]
  | cons u us =>
      simp only [uniform, List.all_eq_true, beq_iff_eq]
      constructor
      · intro h
        have hall : ∀ v ∈ u :: us, v.orderingKind = u.orderingKind :=
          List.forall_mem_cons.mpr ⟨rfl, h⟩
        exact fun v hv w hw ↦ (hall v hv).trans (hall w hw).symm
      · exact fun h v hv ↦ h v (.tail _ hv) u List.mem_cons_self

theorem isUniform_of_uniform {attr : Json} (hnan : NaNFree attr rows)
    (h : uniform (values attr rows) = true) : IsUniform attr rows := by
  have hmem : ∀ row ∈ rows, ∀ v ∈ row.base.present? attr, v ∈ values attr rows :=
    fun row hrow v hv ↦ mem_values.mpr ⟨row, hrow, hv⟩
  cases hvalues : values attr rows with
  | nil =>
      refine ⟨.absent, fun row hrow v hv ↦ ?_⟩
      have hv := hmem row hrow v hv
      rw [hvalues] at hv
      contradiction
  | cons w ws =>
      refine ⟨w.orderingKind, fun row hrow v hv ↦ ⟨?_, hnan row hrow v hv⟩⟩
      have hw : w ∈ values attr rows := hvalues ▸ List.mem_cons_self
      exact uniform_iff.mp h v (hmem row hrow v hv) w hw

/-- Without NaN the rows are merged if their values are of one kind, and not sorted otherwise. -/
theorem sortBy_of_naNFree (hnan : NaNFree o.attr rows) :
    sortBy o rows = if uniform (values o.attr rows) then .ok (rows.mergeSort (mayPrecede o))
      else .error (.query (.incomparableOrder o.attr)) := by
  have hnone : (values o.attr rows).any Comparable.isNaN = false := by
    rw [List.any_eq_false]
    intro v hv
    obtain ⟨row, hrow, hv⟩ := mem_values.mp hv
    simp [hnan row hrow v hv]
  exact if_neg (hnone ▸ Bool.false_ne_true)

theorem sortBy_eq (hnan : NaNFree o.attr rows) (h : sortBy o rows = .ok sorted) :
    IsUniform o.attr rows ∧ sorted = rows.mergeSort (mayPrecede o) := by
  rw [sortBy_of_naNFree hnan] at h
  split at h
  · rename_i huniform
    exact ⟨isUniform_of_uniform hnan huniform, (Except.ok.inj h).symm⟩
  · contradiction

theorem bne_gt_compare {α : Type} [LinearOrder α] (a b : α) :
    (compare a b != .gt) = decide (a ≤ b) := by
  rw [Bool.eq_iff_iff, bne_iff_ne, decide_eq_true_iff, compare_le_iff_le]

theorem mayPrecede_ascending {attr : Json} (h : IsUniform attr rows) {a b : JoinedRow}
    (ha : a ∈ rows) (hb : b ∈ rows) :
    mayPrecede ⟨attr, .ascending⟩ a b = decide (a.place attr ≤ b.place attr) := by
  simp only [mayPrecede, order_sortKey h ha hb, bne_gt_compare]

/-- A descending order compares the places the other way round. -/
theorem mayPrecede_descending {attr : Json} (h : IsUniform attr rows) {a b : JoinedRow}
    (ha : a ∈ rows) (hb : b ∈ rows) : mayPrecede ⟨attr, .descending⟩ a b =
      decide (OrderDual.toDual (a.place attr) ≤ OrderDual.toDual (b.place attr)) := by
  simp only [mayPrecede, order_sortKey h hb ha, bne_gt_compare]
  rfl

theorem exists_key_of_isUniform (h : IsUniform o.attr rows) :
    ∃ (κ : Type) (_ : LinearOrder κ) (key : JoinedRow → κ), ∀ a ∈ rows, ∀ b ∈ rows,
      (o.Precedes a b ↔ key a < key b) ∧ mayPrecede o a b = decide (key a ≤ key b) := by
  obtain ⟨attr, direction⟩ := o
  cases direction with
  | ascending =>
      refine ⟨_, inferInstance, place attr, fun a ha b hb ↦ ⟨?_, mayPrecede_ascending h ha hb⟩⟩
      simp only [Order.Precedes, precedes_iff, order_sortKey h ha hb, compare_lt_iff_lt]
  | descending =>
      refine ⟨_, inferInstance, OrderDual.toDual ∘ place attr, fun a ha b hb ↦
        ⟨?_, mayPrecede_descending h ha hb⟩⟩
      simp only [Order.Precedes, precedes_iff, order_sortKey h hb ha, compare_lt_iff_lt]
      rfl

/-! ## All orders -/

/-- A row comes by the first order and then by the others, as pairs of keys do. -/
theorem Represents.cons {ι : Type} [LinearOrder ι] {first : JoinedRow → ι}
    (hfirst : ∀ a ∈ rows, ∀ b ∈ rows, (o.Precedes a b ↔ first a < first b))
    (hsecond : Represents orders rows key) :
    Represents (o :: orders) rows fun row ↦ toLex (first row, key row) := by
  have hties : ∀ a ∈ rows, ∀ b ∈ rows, (o.Ties a b ↔ first a = first b) := by
    intro a ha b hb
    rw [Order.Ties, hfirst a ha b hb, hfirst b hb a ha, not_lt, not_lt, and_comm]
    exact le_antisymm_iff.symm
  constructor
  · intro a ha b hb
    rw [Precedes, Prod.Lex.toLex_lt_toLex, hfirst a ha b hb, hties a ha b hb, hsecond.lt a ha b hb]
  · intro a ha b hb
    rw [List.forall_mem_cons, hties a ha b hb, hsecond.eq a ha b hb, toLex_inj, Prod.mk.injEq]

/-- Sorting by the orders, if nothing prevents it, is stable sorting by a key. -/
theorem exists_key_of_sortAll (hnan : ∀ o ∈ orders, NaNFree o.attr rows)
    (h : sortAll orders rows = .ok sorted) :
    ∃ (κ : Type) (_ : LinearOrder κ) (key : JoinedRow → κ),
      Represents orders rows key ∧ IsSortedBy key rows sorted := by
  induction orders generalizing sorted with
  | nil =>
      obtain rfl := Except.ok.inj h
      refine ⟨Unit, inferInstance, fun _ ↦ (), ⟨?_, ?_⟩, ?_, ?_⟩
      · simp [Precedes]
      · simp
      · exact List.pairwise_of_forall_mem_list fun _ _ _ _ ↦ le_rfl
      · simp
  | cons o os ih =>
      rw [sortAll_cons] at h
      obtain ⟨once, honce, h⟩ := bind_eq_ok_iff.mp h
      obtain ⟨hnan, hrest⟩ := List.forall_mem_cons.mp hnan
      obtain ⟨ι, _, second, hsecond, hsorted⟩ := ih hrest honce
      have hsubset : once ⊆ rows := (sortAll_perm honce).subset
      obtain ⟨huniform, rfl⟩ := sortBy_eq (fun row hrow ↦ hnan row (hsubset hrow)) h
      obtain ⟨κ, _, first, hfirst⟩ := exists_key_of_isUniform huniform
      have hmem : ∀ {row}, row ∈ rows → row ∈ once := (sortAll_perm honce).mem_iff.mpr
      refine ⟨κ ×ₗ ι, inferInstance, fun row ↦ toLex (first row, second row), ?_, ?_⟩
      · exact .cons (fun a ha b hb ↦ (hfirst a (hmem ha) b (hmem hb)).1) hsecond
      · apply hsorted.andThen
        exact isSortedBy_mergeSort fun a ha b hb ↦ (hfirst a ha b hb).2

/-- There is one way to sort the rows by the orders, and sorting finds it. -/
theorem isSorting_iff_of_sortAll (hnan : ∀ o ∈ orders, NaNFree o.attr rows)
    (h : sortAll orders rows = .ok sorted) : IsSorting orders rows xs ↔ xs = sorted := by
  obtain ⟨κ, _, key, hkey, hsorted⟩ := exists_key_of_sortAll hnan h
  constructor
  · intro hsorting
    exact (hkey.isSortedBy hsorting).unique hsorted
  · rintro rfl
    exact hkey.isSorting (sortAll_perm h) hsorted

/-- What is sorted of a part of the rows is part of what is sorted of them all. -/
theorem sortAll_sublist (hnan : ∀ o ∈ orders, NaNFree o.attr rows') (hsub : rows.Sublist rows')
    (h : sortAll orders rows = .ok sorted) (h' : sortAll orders rows' = .ok sorted') :
    sorted.Sublist sorted' := by
  have hpart : ∀ o ∈ orders, NaNFree o.attr rows := fun o ho row hrow ↦
    hnan o ho row (hsub.subset hrow)
  obtain ⟨κ, _, key, hkey, hsorted⟩ := exists_key_of_sortAll hpart h
  obtain ⟨κ', _, key', hkey', hsorted'⟩ := exists_key_of_sortAll hnan h'
  have hsorting : IsSorting orders rows sorted := hkey.isSorting (sortAll_perm h) hsorted
  exact ((hkey'.mono hsub.subset).isSortedBy hsorting).sublist hsorted' hsub

end JoinedRow

/-! ## The limit -/

namespace Query

variable {q : Query} {s : Snapshot}

theorem validate_limit (n : ℕ) (plans : List PlannedLink) :
    ({ q with topCount := some n } : Query).validate s plans =
      ({ q with topCount := none } : Query).validate s plans := by
  have hn : ¬(n : ℤ) < 0 := by omega
  simp only [validate, if_neg hn]
  rfl

theorem found_limit (q : Query) (s : Snapshot) (n : ℕ) :
    ({ q with topCount := some n } : Query).found s =
      (({ q with topCount := none } : Query).found s).map fun found ↦
        (found.1, found.2.take n) := by
  simp only [found, orderedRows, Traced.result_bind, Traced.result_silent, map_bind_eq,
    bind_assoc, validate_limit n]
  rfl

/-- Rows are sorted by the orders in the one way that keeps tied rows as they were, and a limit
takes the first of the records that there are without it. -/
theorem sorts_uniquely_and_limits :
    (∀ orders rows sorted, (∀ o ∈ orders, JoinedRow.NaNFree o.attr rows) →
      JoinedRow.sortAll orders rows = .ok sorted →
        ∀ xs, JoinedRow.IsSorting orders rows xs ↔ xs = sorted) ∧
    ∀ (q : Query) s policy (n : ℕ), (evaluate { q with topCount := some n } s policy).result =
      (evaluate { q with topCount := none } s policy).result.map fun c ↦
        { c with records := c.records.take n } := by
  refine ⟨fun _ _ _ hnan h _ ↦ JoinedRow.isSorting_iff_of_sortAll hnan h, fun q s policy n ↦ ?_⟩
  rw [result_evaluate, result_evaluate, found_limit]
  cases ({ q with topCount := none } : Query).found s with
  | error fault => rfl
  | ok found => simp [Except.map, List.map_take]

/-- Tasks with a size and a rank, null or none. -/
def exampleTasks : List JoinedRow :=
  let task (n : ℕ) (size : ℤ) (rank : List (String × Value)) : JoinedRow :=
    ⟨⟨"task", some (Guid.ofNat n), .ofList (("size", .number (.integer size)) :: rank)⟩, []⟩
  [task 1 7 [("rank", .null)], task 2 8 [("rank", .number (.integer 1))],
    task 3 6 [("rank", .number (.boolean true))],
    task 4 9 [("rank", .money (.finite false 25 (-1)))], task 5 7 []]

def exampleOrders : List Order := [⟨.str "rank", .descending⟩, ⟨.str "size", .ascending⟩]

/-- A truth value ties with an integer, and what has no rank comes last in its own order. -/
theorem sorts_uniquely_and_limits_example :
    ∃ sorted, JoinedRow.sortAll exampleOrders exampleTasks = .ok sorted ∧
      sorted.map (fun row ↦ row.base.id) = [4, 3, 2, 1, 5].map (fun n ↦ some (Guid.ofNat n)) ∧
      (∀ o ∈ exampleOrders, JoinedRow.NaNFree o.attr exampleTasks) ∧
      ∀ xs, JoinedRow.IsSorting exampleOrders exampleTasks xs ↔ xs = sorted := by
  have hids : (JoinedRow.sortAll exampleOrders exampleTasks).map
      (List.map fun row ↦ row.base.id) = .ok ([4, 3, 2, 1, 5].map fun n ↦ some (Guid.ofNat n)) := by
    cbv
  obtain ⟨sorted, hsorted, hids⟩ := map_eq_ok_iff.mp hids
  have hnan : ∀ o ∈ exampleOrders, JoinedRow.NaNFree o.attr exampleTasks := by
    unfold JoinedRow.NaNFree
    decide +kernel
  exact ⟨sorted, hsorted, hids, hnan, sorts_uniquely_and_limits.1 _ _ _ hnan hsorted⟩

end Query

end OrgService
