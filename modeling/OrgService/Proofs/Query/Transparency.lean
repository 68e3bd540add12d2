import OrgService.Proofs.OrderedMap
import OrgService.Proofs.Query.Operators
import OrgService.Proofs.Query.RowOrder
import OrgService.Proofs.Value.Aliases

/-!
# Transparency of aliases

A value behind aliases passes the same tests, has the same join key and takes the same place in an
order as the value itself, unless it is null. A null behind an alias has no join key either, but for
tests and orders it is a value: it fails the test for null, and it is sorted with the values, where
it compares with nothing but its like.
-/

namespace OrgService

/-! ## Lists that are sorted alike -/

/-- Two outcomes of sorting the images of the same elements under two functions: one fault, or the
images of the elements in one order. -/
inductive SortedAlike {ι α ε : Type} (f g : ι → α) (xs : List ι) :
    Except ε (List α) → Except ε (List α) → Prop
  | error (e : ε) : SortedAlike f g xs (.error e) (.error e)
  | ok {ys : List ι} (h : ys.Perm xs) : SortedAlike f g xs (.ok (ys.map f)) (.ok (ys.map g))

namespace SortedAlike

variable {ι α ε ε' : Type} {f g : ι → α} {xs ys : List ι} {x y : Except ε (List α)}

theorem mapError (h : SortedAlike f g xs x y) (k : ε → ε') :
    SortedAlike f g xs (x.mapError k) (y.mapError k) := by
  cases h with
  | error e => exact .error (k e)
  | ok hperm => exact .ok hperm

theorem eq_error_of_right {e : ε} (h : SortedAlike f g xs x y) (hy : y = .error e) :
    x = .error e := by
  cases h with
  | error e' => exact hy
  | ok hperm => contradiction

theorem of_perm (h : SortedAlike f g ys x y) (hperm : ys.Perm xs) : SortedAlike f g xs x y := by
  cases h with
  | error e => exact .error e
  | ok h => exact .ok (h.trans hperm)

theorem reverse (h : SortedAlike f g xs.reverse x y) :
    SortedAlike f g xs (x.map List.reverse) (y.map List.reverse) := by
  cases h with
  | error e => exact .error e
  | @ok ys hperm =>
      have hreversed : ys.reverse.Perm xs :=
        (List.reverse_perm ys).trans (hperm.trans (List.reverse_perm xs))
      have halike : SortedAlike f g xs (.ok (ys.reverse.map f) : Except ε (List α))
          (.ok (ys.reverse.map g)) := .ok hreversed
      simpa only [Except.map, List.map_reverse] using halike

theorem insertionSort {less : α → α → Except ε Bool}
    (hless : ∀ i ∈ xs, ∀ j ∈ xs, less (f i) (f j) = less (g i) (g j)) :
    SortedAlike f g xs (InsertionSort.sort less (xs.map f))
      (InsertionSort.sort less (xs.map g)) := by
  have hcompares := InsertionSort.sort_compares (ε := ε) xs
  rw [InsertionSort.sort_map, InsertionSort.sort_map, ← hcompares.congr hless]
  cases hsort : InsertionSort.sort (fun i j ↦ less (f i) (f j)) xs with
  | error e => exact .error e
  | ok ys => exact .ok (hcompares.of_eq_ok hsort)

end SortedAlike

/-! ## Orders -/

namespace JoinedRow

variable {ι : Type} {f g : ι → JoinedRow} {xs : List ι} {order : Order}

theorem sortCarefully_alike
    (h : ∀ i ∈ xs, (f i).sortKey order.attr = (g i).sortKey order.attr) :
    SortedAlike f g xs (sortCarefully order (xs.map f)) (sortCarefully order (xs.map g)) := by
  obtain ⟨attr, direction⟩ := order
  cases direction with
  | ascending =>
      refine SortedAlike.mapError (.insertionSort fun i hi j hj ↦ ?_) _
      rw [h i hi, h j hj]
  | descending =>
      simp only [sortCarefully, ← List.map_reverse]
      refine SortedAlike.mapError (.reverse (.insertionSort fun i hi j hj ↦ ?_)) _
      rw [h i (List.mem_reverse.mp hi), h j (List.mem_reverse.mp hj)]

theorem sortBy_alike (h : ∀ i ∈ xs, (f i).sortKey order.attr = (g i).sortKey order.attr) :
    SortedAlike f g xs (sortBy order (xs.map f)) (sortBy order (xs.map g)) := by
  have hvalues : (xs.map g).filterMap (fun r ↦ (r.sortKey order.attr).value) =
      (xs.map f).filterMap fun r ↦ (r.sortKey order.attr).value := by
    rw [List.filterMap_map, List.filterMap_map]
    exact List.filterMap_congr fun i hi ↦ congrArg SortKey.value (h i hi).symm
  simp only [sortBy, hvalues]
  split
  · exact sortCarefully_alike h
  · split
    · -- Both lists are images of one list that is sorted by the first of the two functions.
      let mayPrecede' (i j : ι) := mayPrecede order (f i) (f j)
      have hf : (xs.mergeSort mayPrecede').map f = (xs.map f).mergeSort (mayPrecede order) :=
        List.map_mergeSort fun _ _ _ _ ↦ rfl
      have hg : (xs.mergeSort mayPrecede').map g = (xs.map g).mergeSort (mayPrecede order) :=
        List.map_mergeSort fun i hi j hj ↦ by simp only [mayPrecede', mayPrecede, h i hi, h j hj]
      rw [← hf, ← hg]
      exact .ok (List.mergeSort_perm xs mayPrecede')
    · exact .error _

/-- Rows with the same keys are sorted alike, whatever else they hold. -/
theorem sortAll_alike (h : ∀ i ∈ xs, ∀ attr, (f i).sortKey attr = (g i).sortKey attr)
    (orders : List Order) :
    SortedAlike f g xs (sortAll orders (xs.map f)) (sortAll orders (xs.map g)) := by
  induction orders with
  | nil => exact .ok (.refl xs)
  | cons order orders ih =>
      rw [sortAll_cons, sortAll_cons]
      generalize sortAll orders (xs.map f) = x, sortAll orders (xs.map g) = y at ih
      cases ih with
      | error fault => exact .error fault
      | @ok ys hperm =>
          have hkeys : ∀ i ∈ ys, (f i).sortKey order.attr = (g i).sortKey order.attr :=
            fun i hi ↦ h i (hperm.subset hi) order.attr
          exact (sortBy_alike hkeys).of_perm hperm

/-- Two rows differ in at most one attribute of their base records, which has one value in the first
row and another one in the second. -/
def Exchanged (name : String) (v w : Value) (row row' : JoinedRow) : Prop :=
  row' = row ∨ row.base.lookup name = v ∧ row' = ⟨row.base.set name w, row.links⟩

end JoinedRow

theorem Record.lookup_set (r : Record) (name name' : String) (v : Value) :
    (r.set name v).lookup name' = if name = name' then v else r.lookup name' := by
  by_cases h : name = name'
  · rw [lookup, set, OrderedMap.get?_insert, if_pos h, if_pos h]
  · rw [lookup, set, OrderedMap.get?_insert, if_neg h, if_neg h]
    rfl

namespace Value

open Condition (holdsOn test test_of_isConcrete test_of_not_isConcrete)
open JoinedRow (Exchanged sortAll sortAll_alike)

/-- A record that holds one value passes the same tests as a record that holds the other, and where
a test of the one breaks down, that of the other breaks down in the same way. -/
def TestsAlike (v w : Value) : Prop :=
  ∀ r s : Record, ∀ name, r.lookup name = v → s.lookup name = w →
    ∀ op values, test r name op values = test s name op values

/-- Rows that hold one value take the same places as rows that hold the other. -/
def PlacedAlike (v w : Value) : Prop :=
  ∀ (name : String) (pairs : List (JoinedRow × JoinedRow)),
    (∀ p ∈ pairs, Exchanged name v w p.1 p.2) → ∀ orders,
      SortedAlike Prod.fst Prod.snd pairs
        (sortAll orders (pairs.map Prod.fst)) (sortAll orders (pairs.map Prod.snd))

/-- Aliases around a value do not count for tests, joins and orders. -/
structure IsTransparent (v : Value) (aliases : List (String × String)) : Prop where
  tests : TestsAlike v (v.behind aliases)
  joinKey : (v.behind aliases).joinKey = v.joinKey
  places : PlacedAlike v (v.behind aliases)

/-! ## Values that are told apart by nothing -/

section

variable {v w : Value} (hconcrete : v.isConcrete = w.isConcrete)
  (hcomparable : v.comparable = w.comparable)

include hconcrete hcomparable

theorem testsAlike : TestsAlike v w := by
  rintro r s name rfl rfl op values
  by_cases h : (r.lookup name).isConcrete = true
  · rw [test_of_isConcrete h, test_of_isConcrete (hconcrete ▸ h)]
    simp only [holdsOn, hcomparable]
  · have h := Bool.eq_false_iff.mpr h
    rw [test_of_not_isConcrete h, test_of_not_isConcrete (hconcrete ▸ h)]

theorem sortKey_of_exchanged {name : String} {row row' : JoinedRow}
    (h : Exchanged name v w row row') (attr : Json) : row.sortKey attr = row'.sortKey attr := by
  rcases h with rfl | ⟨rfl, rfl⟩
  · rfl
  · cases attr with
    | str name' =>
        simp only [JoinedRow.sortKey, Condition.lookup, Record.lookup_set]
        by_cases hname : name = name'
        · subst hname
          rw [if_pos rfl, hconcrete, hcomparable]
          rfl
        · rw [if_neg hname]
          rfl
    | _ => rfl

theorem placedAlike : PlacedAlike v w := by
  intro name pairs hpairs orders
  exact sortAll_alike (fun p hp ↦ sortKey_of_exchanged hconcrete hcomparable (hpairs p hp)) orders

end

/-! ## Nulls behind aliases -/

section

variable {w : Value} (hw : w.isConcrete = true)

/-- A row of one attribute. -/
def rowOf (v : Value) : JoinedRow := ⟨⟨"task", none, .ofList [("rank", v)]⟩, []⟩

theorem lookup_rowOf (v : Value) : (rowOf v).base.lookup "rank" = v := rfl

include hw

theorem not_testsAlike_null : ¬TestsAlike .null w := by
  intro h
  have hnull : test (rowOf .null).base "rank" .null [] = .ok true := rfl
  have hconcrete : ((rowOf w).base.lookup "rank").isConcrete = true := hw
  have hvalue : test (rowOf w).base "rank" .null [] = .ok false :=
    test_of_isConcrete hconcrete .null []
  rw [h _ _ "rank" (lookup_rowOf .null) (lookup_rowOf w), hvalue] at hnull
  contradiction

theorem not_placedAlike_null (hnull : w.comparable = .null) : ¬PlacedAlike .null w := by
  intro h
  let zero := rowOf (.number (.integer 0))
  let order : Order := ⟨.str "rank", .ascending⟩
  have hpairs : ∀ p ∈ [(zero, zero), (rowOf .null, rowOf w)],
      Exchanged "rank" .null w p.1 p.2 := by
    rintro p (_ | ⟨_, _ | ⟨_, ⟨⟩⟩⟩)
    · exact .inl rfl
    · exact .inr ⟨rfl, rfl⟩
  -- A null goes to the front; behind an alias it is a value, but none that a number compares with.
  have hsorts : ∃ rows, sortAll [order] [zero, rowOf .null] = .ok rows := ⟨_, rfl⟩
  have hfails : sortAll [order] [zero, rowOf w] =
      .error (.query (.incomparableOrder order.attr)) := by
    have hzero : (zero.sortKey order.attr).value = some (.number (.integer 0)) := rfl
    have hvalue : ((rowOf w).sortKey order.attr).value = some .null := by
      simp [JoinedRow.sortKey, Condition.lookup, order, lookup_rowOf, hw, hnull]
    rw [JoinedRow.sortAll_cons]
    change JoinedRow.sortBy order [zero, rowOf w] = _
    simp only [JoinedRow.sortBy, List.filterMap_cons, List.filterMap_nil, hzero, hvalue]
    rfl
  obtain ⟨rows, hrows⟩ := hsorts
  have hfails' := (h "rank" _ hpairs [order]).eq_error_of_right hfails
  have hboth := hrows.symm.trans hfails'
  contradiction

end

/-! ## Aliases -/

variable {v : Value} {aliases : List (String × String)}

theorem isConcrete_behind_eq_iff (hv : v ≠ .absent) :
    v.isConcrete = (v.behind aliases).isConcrete ↔ (v = .null → aliases = []) := by
  rw [isConcrete_behind]
  cases v <;> simp_all [isConcrete]

theorem isConcrete_of_hidden (h : ¬(v = .null → aliases = [])) :
    v = .null ∧ (v.behind aliases).isConcrete = true := by
  obtain ⟨rfl, haliases⟩ := Classical.not_imp.mp h
  rw [isConcrete_behind]
  simp [isConcrete, haliases]

/-- Aliases around a value never count for joins, and for tests and orders they count only if there
is nothing but null behind them. -/
theorem isTransparent_unless_null (hv : v ≠ .absent) (aliases : List (String × String)) :
    (v.behind aliases).joinKey = v.joinKey ∧
      (TestsAlike v (v.behind aliases) ↔ (v = .null → aliases = [])) ∧
      (PlacedAlike v (v.behind aliases) ↔ (v = .null → aliases = [])) := by
  have hcomparable := (comparable_behind v aliases).symm
  refine ⟨joinKey_behind hv aliases, ?_, ?_⟩
  · refine ⟨fun h ↦ ?_, fun h ↦ testsAlike ((isConcrete_behind_eq_iff hv).mpr h) hcomparable⟩
    by_contra hhidden
    obtain ⟨rfl, hconcrete⟩ := isConcrete_of_hidden hhidden
    exact not_testsAlike_null hconcrete h
  · refine ⟨fun h ↦ ?_, fun h ↦ placedAlike ((isConcrete_behind_eq_iff hv).mpr h) hcomparable⟩
    by_contra hhidden
    obtain ⟨rfl, hconcrete⟩ := isConcrete_of_hidden hhidden
    exact not_placedAlike_null hconcrete hcomparable.symm h

/-- A number behind two aliases, and a null that is behind none or behind one. -/
theorem isTransparent_unless_null_example :
    TestsAlike (.number (.integer 1))
        (.aliased "task" "rank" (.aliased "note" "size" (.number (.integer 1)))) ∧
      PlacedAlike .null .null ∧ ¬TestsAlike .null (.aliased "task" "rank" .null) ∧
      (Value.aliased "task" "rank" .null).joinKey = Value.null.joinKey := by
  have hnumber : Value.number (.integer 1) ≠ .absent := by simp
  have hnull : Value.null ≠ .absent := by simp
  obtain ⟨-, htests, -⟩ :=
    isTransparent_unless_null hnumber [("task", "rank"), ("note", "size")]
  obtain ⟨-, -, hplaced⟩ := isTransparent_unless_null hnull []
  obtain ⟨hkey, hdiffer, -⟩ := isTransparent_unless_null hnull [("task", "rank")]
  exact ⟨htests.mpr (by simp), hplaced.mpr fun _ ↦ rfl, by simpa using mt hdiffer.mp, hkey⟩

/-- A null behind one alias is no longer null. -/
theorem not_isTransparent_aliasedNull : ¬IsTransparent .null [("task", "rank")] := by
  intro h
  exact not_testsAlike_null rfl h.tests

end Value

end OrgService
