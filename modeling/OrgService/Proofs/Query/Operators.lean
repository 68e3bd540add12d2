import OrgService.Proofs.Query.Checks
import OrgService.Proofs.Value.Order
import OrgService.Query.Condition

/-!
# The algebra of operators

The operators of conditions answer to each other: each has its negation, membership is equality
with one of several values, and the ordering operators split all comparable pairs into less, equal
and greater. They fail together, on values of different kinds.
-/

namespace OrgService

namespace Comparable

/-- Neither a NaN nor a null behind an alias. -/
structure IsProper (v : Comparable) : Prop where
  notNaN : v.isNaN = false
  notNull : v ≠ .null
  notAbsent : v ≠ .absent

def Matches (v w : Comparable) : Prop := v.orderingKind = w.orderingKind ∧ v.place = w.place

instance (v w : Comparable) : Decidable (v.Matches w) := inferInstanceAs (Decidable (_ ∧ _))

variable {v w : Comparable}

theorem matches_comm : v.Matches w ↔ w.Matches v := and_congr eq_comm eq_comm

theorem equal_eq_matches (hv : v.isNaN = false) (hw : w.isNaN = false) :
    v.equal w = .ok (decide (v.Matches w)) := by
  by_cases hkind : v.orderingKind = w.orderingKind
  · rw [equal_eq hkind hv hw]
    simp [Matches, hkind]
  · rw [equal_of_kind_ne hkind]
    simp [Matches, hkind]

theorem isDocumentNaN_of_not_isNaN (hv : v.isNaN = false) : v.isDocumentNaN = false := by
  unfold isDocumentNaN
  split
  · contradiction
  · rfl

theorem IsProper.orderingKind_ne (h : v.IsProper) :
    v.orderingKind ≠ .null ∧ v.orderingKind ≠ .absent := by
  cases v with
  | null => exact absurd rfl h.notNull
  | absent => exact absurd rfl h.notAbsent
  | timestamp t =>
      simp only [orderingKind]
      split <;> simp
  | _ => simp [orderingKind]

end Comparable

def Operator.orderings : List Operator := [.lessThan, .lessEqual, .greaterThan, .greaterEqual]

namespace Condition

open Comparable

/-- What the test of an attribute of a record comes to. -/
def test (r : Record) (name : String) (op : Operator) (values : List Value) : Except Fault Bool :=
  holds r ⟨.str name, op, values⟩

/-- Values pass the check for an operator, on whatever attribute. -/
def Accepts (op : Operator) (values : List Value) : Prop :=
  ∀ attr, check ⟨attr, op, values⟩ = .ok ()

theorem Accepts.wellFormed {op : Operator} {values : List Value} (h : Accepts op values) :
    WellFormed ⟨.null, op, values⟩ := by
  apply (problem?_eq_none_iff _).mp
  have hchecked := h .null
  unfold check at hchecked
  split at hchecked
  · assumption
  · contradiction

def actual (r : Record) (name : String) : Comparable := (r.lookup name).comparable

/-- What the value of an attribute is compared with: a text is an identifier for another one, if it
spells one. -/
def counterpart (r : Record) (name : String) (v : Value) : Comparable :=
  coerce (actual r name) v.comparable

/-- The laws of the operators on an attribute with a value. -/
structure Laws (r : Record) (name : String) (values : List Value) : Prop where
  null : Accepts .null values → test r name .null values = .ok false
  notNull : Accepts .notNull values → test r name .notNull values = .ok true
  notEqual : Accepts .notEqual values →
    ∃ b, test r name .equal values = .ok b ∧ test r name .notEqual values = .ok (!b)
  within : Accepts .within values →
    test r name .within values = .ok (values.any fun v ↦ test r name .equal [v] = .ok true)
  notWithin : Accepts .notWithin values →
    ∃ b, test r name .within values = .ok b ∧ test r name .notWithin values = .ok (!b)
  /-- Values of different kinds: no ordering operator has an answer. -/
  incomparable : Accepts .lessThan values → ∀ v ∈ values,
    (actual r name).orderingKind ≠ (counterpart r name v).orderingKind →
    ∀ op ∈ Operator.orderings,
      test r name op values = .error (.query (.invalidCondition (.str name) op.text
        (.incomparable (actual r name).kind (counterpart r name v).kind)))
  /-- Values of one kind: exactly one of less, equal and greater holds. -/
  comparable : Accepts .lessThan values → ∀ v ∈ values,
    (actual r name).orderingKind = (counterpart r name v).orderingKind →
    ∃ less equal greater : Bool, [less, equal, greater].count true = 1 ∧
      test r name .lessThan values = .ok less ∧ test r name .equal values = .ok equal ∧
      test r name .greaterThan values = .ok greater ∧
      test r name .lessEqual values = .ok (less || equal) ∧
      test r name .greaterEqual values = .ok (greater || equal)
  like : Accepts .like values → (actual r name).orderingKind = .text →
    ∃ b, test r name .like values = .ok b ∧ test r name .notLike values = .ok (!b)
  unlike : Accepts .like values → (actual r name).orderingKind ≠ .text →
    test r name .like values = .ok false ∧ test r name .notLike values = .ok false

variable {r : Record} {name : String} {values : List Value} {v : Value}

theorem isNaN_counterpart (hv : v.comparable.isNaN = false) :
    (counterpart r name v).isNaN = false := by
  unfold counterpart coerce
  split
  · rename_i s _ _
    cases Guid.parse? s with
    | none => exact hv
    | some g => rfl
  · exact hv

theorem test_of_not_isConcrete (h : (r.lookup name).isConcrete = false) (op : Operator)
    (values : List Value) : test r name op values = .ok (op == .null) := by
  simp [test, holds, lookup, h]

theorem test_of_isConcrete (h : (r.lookup name).isConcrete = true) (op : Operator)
    (values : List Value) :
    test r name op values = holdsOn ⟨.str name, op, values⟩ (r.lookup name) := by
  simp [test, holds, lookup, h]

/-! ## Equality and membership -/

theorem isOneOf_eq {v : Comparable} {ws : List Comparable} (hv : v.isNaN = false)
    (hws : ∀ w ∈ ws, w.isNaN = false) : isOneOf v ws = .ok (ws.any fun w ↦ v.Matches w) := by
  induction ws with
  | nil => rfl
  | cons w ws ih =>
      obtain ⟨hw, hws⟩ := List.forall_mem_cons.mp hws
      rw [isOneOf, isDocumentNaN_of_not_isNaN hw, Bool.false_and, if_neg Bool.false_ne_true,
        equal_eq_matches hw hv, List.any_cons, ih hws]
      by_cases hmatches : v.Matches w
      · simp [bind, Except.bind, hmatches, matches_comm.mp hmatches]
      · simp [bind, Except.bind, hmatches, mt matches_comm.mp hmatches]

section concrete

variable (hconcrete : (r.lookup name).isConcrete = true)
  (hproper : (actual r name).IsProper)

include hconcrete hproper

theorem test_equal (hv : v.comparable.isNaN = false) :
    test r name .equal [v] =
      .ok (decide ((actual r name).Matches (counterpart r name v))) := by
  have hequal : (actual r name).equal (counterpart r name v) = _ :=
    equal_eq_matches hproper.notNaN (isNaN_counterpart hv)
  rw [test_of_isConcrete hconcrete]
  exact congrArg (Except.mapError Fault.breakdown) hequal

theorem test_notEqual (hv : v.comparable.isNaN = false) :
    test r name .notEqual [v] =
      .ok (!decide ((actual r name).Matches (counterpart r name v))) := by
  have hequal : (actual r name).equal (counterpart r name v) = _ :=
    equal_eq_matches hproper.notNaN (isNaN_counterpart hv)
  rw [test_of_isConcrete hconcrete]
  change Except.mapError _ (do .ok (!(← (actual r name).equal (counterpart r name v)))) = _
  rw [hequal]
  rfl

theorem isOneOf_counterpart (hvalues : ∀ v ∈ values, v.comparable.isNaN = false) :
    isOneOf (actual r name) (values.map (counterpart r name)) =
      .ok (values.any fun v ↦ test r name .equal [v] = .ok true) := by
  have hcounterparts : ∀ w ∈ values.map (counterpart r name), w.isNaN = false :=
    List.forall_mem_map.mpr fun v hv ↦ isNaN_counterpart (hvalues v hv)
  rw [isOneOf_eq hproper.notNaN hcounterparts, List.any_map]
  refine congrArg Except.ok (Bool.eq_iff_iff.mpr ?_)
  simp only [List.any_eq_true]
  refine exists_congr fun v ↦ and_congr_right fun hv ↦ ?_
  simp [test_equal hconcrete hproper (hvalues v hv)]

theorem test_within (hvalues : ∀ v ∈ values, v.comparable.isNaN = false) :
    test r name .within values =
      .ok (values.any fun v ↦ test r name .equal [v] = .ok true) := by
  rw [test_of_isConcrete hconcrete]
  exact congrArg (Except.mapError Fault.breakdown) (isOneOf_counterpart hconcrete hproper hvalues)

theorem test_notWithin (hvalues : ∀ v ∈ values, v.comparable.isNaN = false) :
    test r name .notWithin values =
      .ok (!values.any fun v ↦ test r name .equal [v] = .ok true) := by
  rw [test_of_isConcrete hconcrete]
  exact congrArg (fun x ↦ Except.mapError Fault.breakdown (Except.map (!·) x))
    (isOneOf_counterpart hconcrete hproper hvalues)

/-! ## Order -/

omit hproper in
theorem test_ordering {op : Operator} (hop : op ∈ Operator.orderings) :
    test r name op [v] =
      compareWith ⟨.str name, op, [v]⟩ (actual r name) (counterpart r name v) := by
  rw [test_of_isConcrete hconcrete]
  simp only [Operator.orderings, List.mem_cons, List.not_mem_nil, or_false] at hop
  rcases hop with rfl | rfl | rfl | rfl <;> rfl

omit hproper in
theorem test_incomparable {op : Operator} (hop : op ∈ Operator.orderings)
    (hkind : (actual r name).orderingKind ≠ (counterpart r name v).orderingKind) :
    test r name op [v] = .error (.query (.invalidCondition (.str name) op.text
      (.incomparable (actual r name).kind (counterpart r name v).kind))) := by
  rw [test_ordering hconcrete hop, compareWith, compare?_of_kind_ne hkind]

theorem test_comparable {op : Operator} (hop : op ∈ Operator.orderings)
    (hv : v.comparable.isNaN = false)
    (hkind : (actual r name).orderingKind = (counterpart r name v).orderingKind) :
    test r name op [v] =
      .ok (ordered op (some (compare (actual r name).place (counterpart r name v).place))) := by
  obtain ⟨hnull, habsent⟩ := hproper.orderingKind_ne
  have horder := compare?_eq hkind hproper.notNaN (isNaN_counterpart hv) hnull habsent
  rw [test_ordering hconcrete hop, compareWith, horder]
  rfl

/-- On values of one kind the tests are those of the order of their places. -/
theorem exists_trichotomy (hv : v.comparable.isNaN = false)
    (hkind : (actual r name).orderingKind = (counterpart r name v).orderingKind) :
    ∃ less equal greater : Bool, [less, equal, greater].count true = 1 ∧
      test r name .lessThan [v] = .ok less ∧ test r name .equal [v] = .ok equal ∧
      test r name .greaterThan [v] = .ok greater ∧
      test r name .lessEqual [v] = .ok (less || equal) ∧
      test r name .greaterEqual [v] = .ok (greater || equal) := by
  let order := compare (actual r name).place (counterpart r name v).place
  have hequal : test r name .equal [v] = .ok (order == .eq) := by
    rw [test_equal hconcrete hproper hv]
    refine congrArg Except.ok (Bool.eq_iff_iff.mpr ?_)
    simp [order, Matches, hkind, compare_eq_iff_eq]
  have hordering : ∀ op ∈ Operator.orderings, test r name op [v] = .ok (ordered op (some order)) :=
    fun _ hop ↦ test_comparable hconcrete hproper hop hv hkind
  generalize order = o at hequal hordering
  refine ⟨o == .lt, o == .eq, o == .gt, ?_, hordering _ (by decide), hequal,
    hordering _ (by decide), (hordering .lessEqual (by decide)).trans ?_,
    (hordering .greaterEqual (by decide)).trans ?_⟩
  · cases o <;> rfl
  · cases o <;> rfl
  · cases o <;> rfl

end concrete

/-! ## Patterns -/

theorem test_like (hconcrete : (r.lookup name).isConcrete = true) {s t : String}
    (hs : actual r name = .text s) :
    ∃ b, test r name .like [.text t] = .ok b ∧ test r name .notLike [.text t] = .ok (!b) := by
  refine ⟨Text.likePattern (Text.caseFold t).toList s.toList, ?_, ?_⟩
  · rw [test_of_isConcrete hconcrete, holdsOn, ← actual, hs]
    rfl
  · rw [test_of_isConcrete hconcrete, holdsOn, ← actual, hs]
    rfl

theorem textTest_of_ne (op : Operator) {v : Comparable} (hkind : v.orderingKind ≠ .text)
    (ws : List Comparable) : textTest op v ws = .ok false := by
  cases v with
  | text s => exact absurd rfl hkind
  | _ => rfl

/-! ## The laws -/

/-- On an attribute without a value only the test for null passes; on any other one the operators
obey their laws. -/
theorem operators_obey_laws (r : Record) (name : String) :
    ((r.lookup name).isConcrete = false →
      ∀ op values, Accepts op values → test r name op values = .ok (op == .null)) ∧
    ((r.lookup name).isConcrete = true → (actual r name).IsProper →
      ∀ values, (∀ v ∈ values, v.comparable.isNaN = false) → Laws r name values) := by
  refine ⟨fun h op values _ ↦ test_of_not_isConcrete h op values, ?_⟩
  intro hconcrete hproper values hvalues
  constructor
  case null => exact fun _ ↦ test_of_isConcrete hconcrete .null values
  case notNull => exact fun _ ↦ test_of_isConcrete hconcrete .notNull values
  case notEqual =>
    intro haccepts
    obtain ⟨v, rfl⟩ := haccepts.wellFormed
    have hv := hvalues v List.mem_cons_self
    exact ⟨_, test_equal hconcrete hproper hv, test_notEqual hconcrete hproper hv⟩
  case within => exact fun _ ↦ test_within hconcrete hproper hvalues
  case notWithin =>
    exact fun _ ↦
      ⟨_, test_within hconcrete hproper hvalues, test_notWithin hconcrete hproper hvalues⟩
  case incomparable =>
    intro haccepts v hv hkind op hop
    obtain ⟨w, rfl⟩ := haccepts.wellFormed
    obtain rfl := List.mem_singleton.mp hv
    exact test_incomparable hconcrete hop hkind
  case comparable =>
    intro haccepts v hv hkind
    obtain ⟨w, rfl⟩ := haccepts.wellFormed
    obtain rfl := List.mem_singleton.mp hv
    exact exists_trichotomy hconcrete hproper (hvalues v hv) hkind
  case like =>
    intro haccepts hkind
    obtain ⟨t, rfl⟩ := haccepts.wellFormed
    cases hactual : actual r name with
    | text s => exact test_like hconcrete hactual
    | timestamp t =>
        rw [hactual, orderingKind] at hkind
        split at hkind <;> contradiction
    | _ =>
        rw [hactual] at hkind
        contradiction
  case unlike =>
    intro _ hkind
    have hfails := fun op ↦ textTest_of_ne op hkind (values.map (counterpart r name))
    constructor
    · rw [test_of_isConcrete hconcrete]
      exact congrArg (Except.mapError Fault.breakdown) (hfails .like)
    · rw [test_of_isConcrete hconcrete]
      exact congrArg (Except.mapError Fault.breakdown) (hfails .notLike)

/-- An amount against a number and against a text, and an attribute that the record lacks. -/
theorem operators_obey_laws_example :
    let task : Record := ⟨"task", none, .ofList [("size", .money (.finite false 75 (-1)))]⟩
    (task.lookup "size").isConcrete = true ∧ (actual task "size").IsProper ∧
      Laws task "size" [.number (.integer 7)] ∧ Laws task "size" [.text "7"] ∧
      (task.lookup "rank").isConcrete = false ∧ Accepts .notEqual [.null] ∧
      test task "rank" .notEqual [.null] = .ok false := by
  intro task
  have hconcrete : (task.lookup "size").isConcrete = true := by decide
  have hproper : (actual task "size").IsProper := ⟨by decide, by decide, by decide⟩
  have hlaws := (operators_obey_laws task "size").2 hconcrete hproper
  have hnumber := hlaws [.number (.integer 7)] (by simp [Value.comparable, Comparable.isNaN,
    Number.isNaN, Number.exact])
  have htext := hlaws [.text "7"] (by simp [Value.comparable, Comparable.isNaN])
  have hlacks : (task.lookup "rank").isConcrete = false := by decide
  have haccepts : Accepts .notEqual [.null] := fun _ ↦ rfl
  exact ⟨hconcrete, hproper, hnumber, htext, hlacks, haccepts,
    (operators_obey_laws task "rank").1 hlacks .notEqual [.null] haccepts⟩

end Condition

end OrgService
