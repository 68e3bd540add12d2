import OrgService.Proofs.Query.InsertionSort
import OrgService.Proofs.Query.Sorting

/-!
# Rows that cannot be sorted

Away from NaN an order cannot be sorted by if two rows have values of different kinds, and for no
other reason. Rows without a value compare with all others, so a sort may well pass from one kind
to another without noticing, and which comparisons it makes depends on the sort. It fails all the
same: its answers never tell which one of two kinds comes first.
-/

namespace OrgService

namespace SortKey

open Comparable

variable {v w : Comparable} {same : Bool}

theorem valueLess_of_kind_eq (hkind : v.orderingKind = w.orderingKind) (hv : v.isNaN = false)
    (hw : w.isNaN = false) (hsame : same = true → v = w) :
    valueLess same v w = .ok (decide (v.place < w.place)) := by
  cases same with
  | true => simp [valueLess, hsame rfl]
  | false =>
      rw [valueLess, if_neg Bool.false_ne_true, equal_eq hkind hv hw]
      by_cases hplace : v.place = w.place
      · simp [hplace]
      · have hordered : ¬(v.orderingKind = .null ∨ v.orderingKind = .absent) := by
          intro hnone
          rcases eq_of_no_kind hkind hnone with ⟨rfl, rfl⟩ | ⟨rfl, rfl⟩ <;> exact hplace rfl
        obtain ⟨hnull, habsent⟩ := not_or.mp hordered
        simp only [hplace, decide_false, compare?_eq hkind hv hw hnull habsent]
        rw [Except.ok.injEq, Bool.eq_iff_iff]
        simp [compare_lt_iff_lt]

theorem valueLess_of_kind_ne (hkind : v.orderingKind ≠ w.orderingKind)
    (hsame : same = true → v = w) : valueLess same v w = .error .incomparable := by
  cases same with
  | true => exact absurd (congrArg orderingKind (hsame rfl)) hkind
  | false =>
      rw [valueLess, if_neg Bool.false_ne_true, equal_of_kind_ne hkind]
      simp only [compare?_of_kind_ne hkind]

end SortKey

namespace JoinedRow

/-! ## Sorting by other sorts -/

/-- The function of a sort, given comparisons of rows that may fail. -/
abbrev RowSort : Type :=
  (JoinedRow → JoinedRow → Except SortKey.Failure Bool) → List JoinedRow →
    Except SortKey.Failure (List JoinedRow)

/-- Whether one row comes before another; `same` tells rows whose values need no comparison. -/
def lessBy (same : JoinedRow → JoinedRow → Bool) (attr : Json) (a b : JoinedRow) :
    Except SortKey.Failure Bool :=
  match a.base.present? attr, b.base.present? attr with
  | none, none => .ok false
  | none, some _ => .ok true
  | some _, none => .ok false
  | some v, some w => SortKey.valueLess (same a b) v w

def sortByUsing (sort : RowSort) (same : JoinedRow → JoinedRow → Bool) (o : Order)
    (rows : List JoinedRow) : Except Fault (List JoinedRow) :=
  let sorted := match o.direction with
    | .ascending => sort (lessBy same o.attr) rows
    | .descending => (sort (lessBy same o.attr) rows.reverse).map List.reverse
  sorted.mapError fun
    | .incomparable => .query (.incomparableOrder o.attr)
    | .breakdown cause => .breakdown cause

def sortAllUsing (sort : RowSort) (same : JoinedRow → JoinedRow → Bool) (orders : List Order)
    (rows : List JoinedRow) : Except Fault (List JoinedRow) :=
  orders.reverse.foldlM (fun rows o ↦ sortByUsing sort same o rows) rows

/-- Only rows with one value are told to be the same. -/
def SameValue (same : JoinedRow → JoinedRow → Bool) (attr : Json) (rows : List JoinedRow) : Prop :=
  ∀ a ∈ rows, ∀ b ∈ rows, same a b = true → a.base.present? attr = b.base.present? attr

/-- Two rows have values of different kinds. -/
def IsMixed (attr : Json) (rows : List JoinedRow) : Prop :=
  ∃ v ∈ values attr rows, ∃ w ∈ values attr rows, v.orderingKind ≠ w.orderingKind

variable {same : JoinedRow → JoinedRow → Bool} {attr : Json} {o : Order} {orders : List Order}
  {rows rows' : List JoinedRow} {a b : JoinedRow} {sort : RowSort}

/-! ## Comparisons of rows -/

/-- Two rows compare by their places, unless they have values of different kinds. -/
theorem lessBy_cases (hnan : NaNFree attr rows) (hsame : SameValue same attr rows) (ha : a ∈ rows)
    (hb : b ∈ rows) :
    (lessBy same attr a b = .error .incomparable ∧ IsMixed attr rows) ∨
      (lessBy same attr a b = .ok (decide (a.place attr < b.place attr)) ∧
        ∀ v w, a.base.present? attr = some v → b.base.present? attr = some w →
          v.orderingKind = w.orderingKind) := by
  unfold lessBy place
  cases hv : a.base.present? attr with
  | none =>
      right
      cases hw : b.base.present? attr with
      | none => simp
      | some w => simp [WithBot.bot_lt_coe]
  | some v =>
      cases hw : b.base.present? attr with
      | none => simp
      | some w =>
          have heq : same a b = true → v = w := fun h ↦
            Option.some.inj (hv.symm.trans ((hsame a ha b hb h).trans hw))
          by_cases hkind : v.orderingKind = w.orderingKind
          · right
            have hless := SortKey.valueLess_of_kind_eq hkind (hnan a ha v hv) (hnan b hb w hw) heq
            simp [hless, hkind]
          · left
            refine ⟨SortKey.valueLess_of_kind_ne hkind heq, v, ?_, w, ?_, hkind⟩
            · exact mem_values.mpr ⟨a, ha, hv⟩
            · exact mem_values.mpr ⟨b, hb, hw⟩

/-- The place of a row if values of some kinds come after all others. -/
def placeWith (later : OrderingKind → Bool) (attr : Json) (row : JoinedRow) :
    WithBot (Bool ×ₗ Comparable.Line) :=
  match row.base.present? attr with
  | none => ⊥
  | some v => WithBot.some (toLex (later v.orderingKind, v.place))

theorem fits_placeWith (hnan : NaNFree attr rows) (hsame : SameValue same attr rows)
    (later : OrderingKind → Bool) : Fits (lessBy same attr) rows (placeWith later attr) := by
  intro a ha b hb answer hanswer
  rcases lessBy_cases hnan hsame ha hb with ⟨hless, -⟩ | ⟨hless, hkind⟩
  · rw [hless] at hanswer
    contradiction
  · rw [hless] at hanswer
    obtain rfl := Except.ok.inj hanswer
    rw [Bool.eq_iff_iff, decide_eq_true_iff, decide_eq_true_iff]
    unfold place placeWith
    cases hv : a.base.present? attr with
    | none => cases b.base.present? attr <;> simp [WithBot.bot_lt_coe]
    | some v =>
        cases hw : b.base.present? attr with
        | none => simp
        | some w => simp [Prod.Lex.toLex_lt_toLex, hkind v w hv hw]

/-- Whatever the sort, it meets two values of different kinds if there are any. -/
theorem sort_of_isMixed (hsort : IsComparisonSort sort) (hnan : NaNFree attr rows)
    (hsame : SameValue same attr rows) (hmixed : IsMixed attr rows) :
    sort (lessBy same attr) rows = .error .incomparable := by
  obtain ⟨v, hv, w, hw, hkind⟩ := hmixed
  obtain ⟨a, ha, hv⟩ := mem_values.mp hv
  obtain ⟨b, hb, hw⟩ := mem_values.mp hw
  -- The answers leave it open whether the kind of `v` comes first or last.
  have hlast := fits_placeWith hnan hsame fun kind ↦ kind = v.orderingKind
  have hfirst := fits_placeWith hnan hsame fun kind ↦ kind ≠ v.orderingKind
  have hbefore : placeWith (fun kind ↦ kind ≠ v.orderingKind) attr a <
      placeWith (fun kind ↦ kind ≠ v.orderingKind) attr b := by
    simp [placeWith, hv, hw, Prod.Lex.toLex_lt_toLex, hkind.symm]
  have hafter : placeWith (fun kind ↦ kind = v.orderingKind) attr b <
      placeWith (fun kind ↦ kind = v.orderingKind) attr a := by
    simp [placeWith, hv, hw, Prod.Lex.toLex_lt_toLex, hkind.symm]
  obtain ⟨e, he⟩ := hsort.exists_eq_error hfirst hlast ha hb hbefore hafter
  obtain ⟨x, hx, y, hy, hless⟩ := (hsort.compares rows).exists_of_eq_error he
  rcases lessBy_cases hnan hsame hx hy with ⟨hxy, -⟩ | ⟨hxy, -⟩
  · rwa [Except.error.inj (hless.symm.trans hxy)] at he
  · exact absurd (hless.symm.trans hxy) (by simp)

theorem exists_sort_eq_ok (hsort : IsComparisonSort sort) (hnan : NaNFree attr rows)
    (hsame : SameValue same attr rows) (huniform : ¬IsMixed attr rows) :
    ∃ sorted, sort (lessBy same attr) rows = .ok sorted ∧
      IsSortedBy (place attr) rows sorted := by
  apply hsort.exists_eq_ok
  intro a ha b hb
  rcases lessBy_cases hnan hsame ha hb with ⟨-, hmixed⟩ | ⟨hless, -⟩
  · exact absurd hmixed huniform
  · exact hless

/-! ## One order -/

theorem uniform_values_iff : uniform (values attr rows) = true ↔ ¬IsMixed attr rows := by
  rw [uniform_iff]
  simp [IsMixed]

theorem NaNFree.of_values (hnan : NaNFree attr rows)
    (hvalues : ∀ v ∈ values attr rows', v ∈ values attr rows) : NaNFree attr rows' := by
  intro row hrow v hv
  obtain ⟨row', hrow', hv'⟩ := mem_values.mp (hvalues v (mem_values.mpr ⟨row, hrow, hv⟩))
  exact hnan row' hrow' v hv'

theorem SameValue.mono (hsame : SameValue same attr rows) (h : ∀ row ∈ rows', row ∈ rows) :
    SameValue same attr rows' :=
  fun a ha b hb ↦ hsame a (h a ha) b (h b hb)

theorem mem_values_of_perm (h : rows'.Perm rows) (attr : Json) (v : Comparable) :
    v ∈ values attr rows' ↔ v ∈ values attr rows :=
  (h.filterMap _).mem_iff

theorem sort_ascending (hsort : IsComparisonSort sort) (hnan : NaNFree attr rows)
    (hsame : SameValue same attr rows) (hmixed : ¬IsMixed attr rows) :
    sort (lessBy same attr) rows = .ok (rows.mergeSort (mayPrecede ⟨attr, .ascending⟩)) := by
  obtain ⟨sorted, hsorted, hkey⟩ := exists_sort_eq_ok hsort hnan hsame hmixed
  have huniform := isUniform_of_uniform hnan (uniform_values_iff.mpr hmixed)
  have hmerged : IsSortedBy (place attr) rows
      (rows.mergeSort (mayPrecede ⟨attr, .ascending⟩)) := by
    apply isSortedBy_mergeSort
    exact fun a ha b hb ↦ mayPrecede_ascending huniform ha hb
  rw [hsorted, hkey.unique hmerged]

/-- Sorting the rows from behind and turning them round keeps tied rows as they were. -/
theorem sort_descending (hsort : IsComparisonSort sort) (hnan : NaNFree attr rows)
    (hsame : SameValue same attr rows) (hmixed : ¬IsMixed attr rows) :
    (sort (lessBy same attr) rows.reverse).map List.reverse =
      .ok (rows.mergeSort (mayPrecede ⟨attr, .descending⟩)) := by
  have hvalues := mem_values_of_perm (List.reverse_perm rows) attr
  have hback : ¬IsMixed attr rows.reverse := by
    simpa only [IsMixed, hvalues] using hmixed
  obtain ⟨sorted, hsorted, hkey⟩ := exists_sort_eq_ok hsort
    (hnan.of_values fun v ↦ (hvalues v).mp) (hsame.mono fun _ ↦ List.mem_reverse.mp) hback
  have huniform := isUniform_of_uniform hnan (uniform_values_iff.mpr hmixed)
  have hmerged : IsSortedBy (OrderDual.toDual ∘ place attr) rows
      (rows.mergeSort (mayPrecede ⟨attr, .descending⟩)) := by
    apply isSortedBy_mergeSort
    exact fun a ha b hb ↦ mayPrecede_descending huniform ha hb
  have hturned := hkey.reverse
  rw [List.reverse_reverse] at hturned
  rw [hsorted, ← hturned.unique hmerged]
  rfl

/-- Any comparison sort of the rows comes to the same, with the same values or the same fault. -/
theorem sortByUsing_eq (hsort : IsComparisonSort sort) (hnan : NaNFree o.attr rows)
    (hsame : SameValue same o.attr rows) : sortByUsing sort same o rows = sortBy o rows := by
  rw [sortBy_of_naNFree hnan]
  obtain ⟨attr, direction⟩ := o
  by_cases hmixed : IsMixed attr rows
  · rw [if_neg (mt uniform_values_iff.mp (not_not_intro hmixed))]
    cases direction with
    | ascending => simp [sortByUsing, sort_of_isMixed hsort hnan hsame hmixed]
    | descending =>
        have hvalues := mem_values_of_perm (List.reverse_perm rows) attr
        have hback : IsMixed attr rows.reverse := by
          simpa only [IsMixed, hvalues] using hmixed
        have hfails := sort_of_isMixed hsort (hnan.of_values fun v ↦ (hvalues v).mp)
          (hsame.mono fun _ ↦ List.mem_reverse.mp) hback
        simp [sortByUsing, hfails, Except.map]
  · rw [if_pos (uniform_values_iff.mpr hmixed)]
    cases direction with
    | ascending => simp [sortByUsing, sort_ascending hsort hnan hsame hmixed]
    | descending => simp [sortByUsing, sort_descending hsort hnan hsame hmixed]

/-- Sorting by insertion, as is done where there are NaN, comes to the same as merging where there
are none, provided that rows with one record have one value. -/
theorem sortCarefully_eq_sortBy (hnan : NaNFree o.attr rows)
    (hrecords : SameValue (fun a b ↦ (a.sortKey o.attr).record == (b.sortKey o.attr).record)
      o.attr rows) : sortCarefully o rows = sortBy o rows :=
  sortByUsing_eq InsertionSort.isComparisonSort hnan hrecords

/-! ## All orders -/

theorem fault?_sortBy (hnan : NaNFree o.attr rows) : fault? (sortBy o rows) =
    if uniform (values o.attr rows) then none else some (.query (.incomparableOrder o.attr)) := by
  rw [sortBy_of_naNFree hnan]
  split <;> rfl

theorem fault?_sortBy_eq_some_iff (hnan : NaNFree o.attr rows) {fault : Fault} :
    fault? (sortBy o rows) = some fault ↔
      IsMixed o.attr rows ∧ fault = .query (.incomparableOrder o.attr) := by
  rw [fault?_sortBy hnan]
  by_cases hmixed : IsMixed o.attr rows
  · rw [if_neg (mt uniform_values_iff.mp (not_not_intro hmixed)), Option.some.injEq]
    simp [hmixed, eq_comm]
  · rw [if_pos (uniform_values_iff.mpr hmixed)]
    simp [hmixed]

theorem fault?_sortBy_eq_none_iff (hnan : NaNFree o.attr rows) :
    fault? (sortBy o rows) = none ↔ ¬IsMixed o.attr rows := by
  rw [fault?_sortBy hnan, ← uniform_values_iff]
  split <;> simp_all

/-- Rows with the same values under an order have the same fault under it. -/
theorem fault?_sortBy_congr (hnan : NaNFree o.attr rows)
    (hvalues : ∀ v, v ∈ values o.attr rows' ↔ v ∈ values o.attr rows) :
    fault? (sortBy o rows') = fault? (sortBy o rows) := by
  have hnan' : NaNFree o.attr rows' := hnan.of_values fun v ↦ (hvalues v).mp
  have huniform : uniform (values o.attr rows') = uniform (values o.attr rows) := by
    rw [Bool.eq_iff_iff, uniform_iff, uniform_iff]
    simp only [hvalues]
  rw [fault?_sortBy hnan', fault?_sortBy hnan, huniform]

/-- The passes fail as the last order does by which the rows cannot be sorted. -/
theorem fault?_sortAll (hnan : ∀ o ∈ orders, NaNFree o.attr rows) :
    fault? (sortAll orders rows) = orders.reverse.findSome? fun o ↦ fault? (sortBy o rows) := by
  induction orders with
  | nil => rfl
  | cons o os ih =>
      obtain ⟨ho, hos⟩ := List.forall_mem_cons.mp hnan
      rw [sortAll_cons, List.reverse_cons, List.findSome?_append, ← ih hos,
        List.findSome?_singleton]
      apply fault?_bind
      intro once honce
      exact fault?_sortBy_congr ho (mem_values_of_perm (sortAll_perm honce) o.attr)

theorem fault?_sortAll_congr (hnan : ∀ o ∈ orders, NaNFree o.attr rows)
    (hvalues : ∀ o ∈ orders, ∀ v, v ∈ values o.attr rows' ↔ v ∈ values o.attr rows) :
    fault? (sortAll orders rows') = fault? (sortAll orders rows) := by
  have hnan' : ∀ o ∈ orders, NaNFree o.attr rows' := fun o ho ↦
    (hnan o ho).of_values fun v ↦ (hvalues o ho v).mp
  rw [fault?_sortAll hnan, fault?_sortAll hnan']
  apply findSome?_congr
  intro o ho
  have ho := List.mem_reverse.mp ho
  exact fault?_sortBy_congr (hnan o ho) (hvalues o ho)

theorem sortAll_eq_error_iff (hnan : ∀ o ∈ orders, NaNFree o.attr rows) {fault : Fault} :
    sortAll orders rows = .error fault ↔
      ∃ earlier o later, orders = earlier ++ o :: later ∧ IsMixed o.attr rows ∧
        (∀ o' ∈ later, ¬IsMixed o'.attr rows) ∧ fault = .query (.incomparableOrder o.attr) := by
  rw [← fault?_eq_some_iff, fault?_sortAll hnan, List.findSome?_eq_some_iff]
  constructor
  · rintro ⟨later, o, earlier, hsplit, hfault, hnone⟩
    have horders : orders = earlier.reverse ++ o :: later.reverse := by
      rw [← List.reverse_reverse orders, hsplit]
      simp
    subst horders
    obtain ⟨hmixed, rfl⟩ := (fault?_sortBy_eq_some_iff (hnan o (by simp))).mp hfault
    refine ⟨earlier.reverse, o, later.reverse, rfl, hmixed, fun o' ho' ↦ ?_, rfl⟩
    apply (fault?_sortBy_eq_none_iff (hnan o' (by simp_all))).mp
    exact hnone o' (List.mem_reverse.mp ho')
  · rintro ⟨earlier, o, later, rfl, hmixed, hnone, rfl⟩
    refine ⟨later.reverse, o, earlier.reverse, by simp, ?_, fun o' ho' ↦ ?_⟩
    · exact (fault?_sortBy_eq_some_iff (hnan o (by simp))).mpr ⟨hmixed, rfl⟩
    · have ho' := List.mem_reverse.mp ho'
      exact (fault?_sortBy_eq_none_iff (hnan o' (by simp [ho']))).mpr (hnone o' ho')

theorem exists_sortAll_eq_error_iff (hnan : ∀ o ∈ orders, NaNFree o.attr rows) :
    (∃ fault, sortAll orders rows = .error fault) ↔ ∃ o ∈ orders, IsMixed o.attr rows := by
  have hnone : fault? (sortAll orders rows) = none ↔ ∀ o ∈ orders, ¬IsMixed o.attr rows := by
    rw [fault?_sortAll hnan, List.findSome?_eq_none_iff]
    simp only [List.mem_reverse]
    exact forall₂_congr fun o ho ↦ fault?_sortBy_eq_none_iff (hnan o ho)
  simp only [← fault?_eq_some_iff]
  rw [← Option.ne_none_iff_exists', ne_eq, hnone]
  push Not
  rfl

theorem sortAllUsing_eq (hsort : IsComparisonSort sort)
    (hnan : ∀ o ∈ orders, NaNFree o.attr rows) (hsame : ∀ o ∈ orders, SameValue same o.attr rows) :
    sortAllUsing sort same orders rows = sortAll orders rows := by
  induction orders with
  | nil => rfl
  | cons o os ih =>
      obtain ⟨hnan, hnans⟩ := List.forall_mem_cons.mp hnan
      obtain ⟨hsame, hsames⟩ := List.forall_mem_cons.mp hsame
      have hpasses : sortAllUsing sort same (o :: os) rows =
          sortAllUsing sort same os rows >>= sortByUsing sort same o := by
        simp [sortAllUsing, List.foldlM_append]
      rw [hpasses, ih hnans hsames, sortAll_cons]
      cases honce : sortAll os rows with
      | error fault => rfl
      | ok once =>
          have hmem : ∀ row ∈ once, row ∈ rows := (sortAll_perm honce).subset
          apply sortByUsing_eq hsort
          · exact fun row hrow ↦ hnan row (hmem row hrow)
          · exact hsame.mono hmem

/-- Sorting fails if and only if some order has values of different kinds to sort by. The fault
names the last such order. It does not depend on how the rows stand nor on which of them have no
values, and with any comparison sort it is the same. -/
theorem sortAll_fails_iff_mixed (hnan : ∀ o ∈ orders, NaNFree o.attr rows) :
    ((∃ fault, sortAll orders rows = .error fault) ↔ ∃ o ∈ orders, IsMixed o.attr rows) ∧
    (∀ fault, sortAll orders rows = .error fault ↔
      ∃ earlier o later, orders = earlier ++ o :: later ∧ IsMixed o.attr rows ∧
        (∀ o' ∈ later, ¬IsMixed o'.attr rows) ∧ fault = .query (.incomparableOrder o.attr)) ∧
    (∀ rows' : List JoinedRow, rows'.Perm rows →
      fault? (sortAll orders rows') = fault? (sortAll orders rows)) ∧
    (∀ rows', (∀ o ∈ orders, ∀ v, v ∈ values o.attr rows' ↔ v ∈ values o.attr rows) →
      fault? (sortAll orders rows') = fault? (sortAll orders rows)) ∧
    ∀ sort : RowSort, IsComparisonSort sort → ∀ same, (∀ o ∈ orders, SameValue same o.attr rows) →
      sortAllUsing sort same orders rows = sortAll orders rows := by
  refine ⟨exists_sortAll_eq_error_iff hnan, fun _ ↦ sortAll_eq_error_iff hnan, ?_, ?_, ?_⟩
  · intro rows' hperm
    exact fault?_sortAll_congr hnan fun o _ ↦ mem_values_of_perm hperm o.attr
  · exact fun rows' hvalues ↦ fault?_sortAll_congr hnan hvalues
  · exact fun sort hsort same hsame ↦ sortAllUsing_eq hsort hnan hsame

/-- Parcels weighed in numbers and words, with a null in between, and labelled in both as well. -/
def exampleParcels : List JoinedRow :=
  let parcel (n : ℕ) (size : ℤ) (others : List (String × Value)) : JoinedRow :=
    ⟨⟨"parcel", some (Guid.ofNat n), .ofList (("size", .number (.integer size)) :: others)⟩, []⟩
  [parcel 1 4 [("weight", .number (.integer 3)), ("label", .text "a")],
    parcel 2 2 [("weight", .null), ("label", .number (.integer 5))],
    parcel 3 9 [("weight", .text "heavy")]]

def parcelOrders : List Order :=
  [⟨.str "weight", .ascending⟩, ⟨.str "label", .descending⟩, ⟨.str "size", .ascending⟩]

theorem sortAll_fails_iff_mixed_example :
    (∀ o ∈ parcelOrders, NaNFree o.attr exampleParcels) ∧
      sortAll parcelOrders exampleParcels = .error (.query (.incomparableOrder (.str "label"))) ∧
      sortAllUsing InsertionSort.sort (fun _ _ ↦ false) parcelOrders exampleParcels =
        .error (.query (.incomparableOrder (.str "label"))) := by
  have hnan : ∀ o ∈ parcelOrders, NaNFree o.attr exampleParcels := by
    unfold NaNFree
    decide +kernel
  have hlabel : IsMixed (.str "label") exampleParcels := by
    unfold IsMixed
    decide +kernel
  have hsize : ¬IsMixed (.str "size") exampleParcels := by
    unfold IsMixed
    decide +kernel
  obtain ⟨-, hfails, -, -, hsorts⟩ := sortAll_fails_iff_mixed hnan
  have hfault := (hfails _).mpr
    ⟨[_], _, [_], rfl, hlabel, List.forall_mem_singleton.mpr hsize, rfl⟩
  refine ⟨hnan, hfault, ?_⟩
  rw [hsorts InsertionSort.sort InsertionSort.isComparisonSort _ (by simp [SameValue]), hfault]

end JoinedRow

end OrgService
