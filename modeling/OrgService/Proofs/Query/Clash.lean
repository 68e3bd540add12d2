import OrgService.Proofs.Query.Checks
import OrgService.Proofs.Trace

/-!
# Clashes of NaN

The comparison of two numbers breaks down if one of them is a signaling NaN, or if they are to be
ordered and there is a NaN and a decimal among them. A well-formed condition breaks down on a
record for no other reason.
-/

namespace OrgService

/-! ## Operations that fail in known ways -/

/-- An operation that fails with faults of queries only, unless it breaks down for one of the
given causes. -/
def FailsOnlyBy {α : Type} (causes : Breakdown → Prop) (x : Except Fault α) : Prop :=
  ∀ fault, x = .error fault →
    (∃ f, fault = .query f) ∨ ∃ cause, causes cause ∧ fault = .breakdown cause

namespace FailsOnlyBy

variable {α β : Type} {causes causes' : Breakdown → Prop}

theorem ok (a : α) : FailsOnlyBy causes (.ok a) := fun _ h ↦ nomatch h

theorem query (f : QueryFault) : FailsOnlyBy causes (.error (.query f) : Except Fault α) := by
  rintro fault ⟨⟩
  exact .inl ⟨f, rfl⟩

theorem breakdown {cause : Breakdown} (h : causes cause) :
    FailsOnlyBy causes (.error (.breakdown cause) : Except Fault α) := by
  rintro fault ⟨⟩
  exact .inr ⟨cause, h, rfl⟩

theorem mono {x : Except Fault α} (hx : FailsOnlyBy causes x)
    (h : ∀ cause, causes cause → causes' cause) : FailsOnlyBy causes' x := by
  intro fault hfault
  refine (hx fault hfault).imp_right ?_
  rintro ⟨cause, hcause, rfl⟩
  exact ⟨cause, h cause hcause, rfl⟩

theorem bind {x : Except Fault α} {f : α → Except Fault β} (hx : FailsOnlyBy causes x)
    (hf : ∀ a, x = .ok a → FailsOnlyBy causes (f a)) : FailsOnlyBy causes (x >>= f) :=
  FailsWith.bind hx hf

theorem mapError_breakdown {x : Except Breakdown α}
    (hx : ∀ cause, x = .error cause → causes cause) :
    FailsOnlyBy causes (x.mapError .breakdown) := by
  cases x with
  | error cause => exact breakdown (hx cause rfl)
  | ok a => exact ok a

theorem mapError_query (x : Except QueryFault α) : FailsOnlyBy causes (x.mapError .query) := by
  cases x with
  | error f => exact query f
  | ok a => exact ok a

theorem mapM {f : α → Except Fault β} {xs : List α} (hf : ∀ x ∈ xs, FailsOnlyBy causes (f x)) :
    FailsOnlyBy causes (xs.mapM f) :=
  FailsWith.mapM hf

theorem flatMap {f : α → Traced (List β)} {xs : List α}
    (hf : ∀ x ∈ xs, FailsOnlyBy causes (f x).result) :
    FailsOnlyBy causes (Traced.flatMap f xs).result :=
  FailsWith.flatMap hf

end FailsOnlyBy

theorem Decides.failsOnlyBy {x : Except Fault Unit} {P : Prop} {causes : Breakdown → Prop}
    (h : Decides x P) : FailsOnlyBy causes x := by
  rcases h with ⟨-, rfl⟩ | ⟨-, f, rfl⟩
  · exact .ok ()
  · exact .query f

/-! ## Comparisons -/

namespace Comparable

/-- Numbers of which it cannot be asked whether they are equal. -/
inductive EqualityClash : Comparable → Comparable → Prop
  | intro {m n : Number} (h : m.isSignaling = true ∨ n.isSignaling = true) :
    EqualityClash (.number m) (.number n)

/-- Numbers of which it cannot be asked which one is greater. -/
inductive OrderClash : Comparable → Comparable → Prop
  | intro {m n : Number} (hnan : m.isNaN = true ∨ n.isNaN = true)
    (hdecimal : m.isDecimal = true ∨ n.isDecimal = true) : OrderClash (.number m) (.number n)

theorem equal_eq_error_iff {v w : Comparable} {cause : Breakdown} :
    v.equal w = .error cause ↔ cause = .nanComparison ∧ EqualityClash v w := by
  constructor
  · intro h
    cases v with
    | number m =>
        cases w with
        | number n =>
            simp only [equal, equalNumbers] at h
            split at h
            · rename_i hsignaling
              exact ⟨(Except.error.inj h).symm, .intro (by simpa using hsignaling)⟩
            · contradiction
        | _ => contradiction
    | timestamp t => cases w <;> contradiction
    | _ => contradiction
  · rintro ⟨rfl, ⟨h⟩⟩
    exact if_pos (by simpa using h)

theorem compare?_eq_error_iff {v w : Comparable} {cause : Breakdown} :
    v.compare? w = some (.error cause) ↔ cause = .nanComparison ∧ OrderClash v w := by
  constructor
  · intro h
    cases v with
    | number m =>
        cases w with
        | number n =>
            simp only [compare?, compareNumbers, Option.some.injEq] at h
            split at h
            · rename_i hclash
              simp only [Bool.and_eq_true, Bool.or_eq_true] at hclash
              exact ⟨(Except.error.inj h).symm, .intro hclash.1 hclash.2⟩
            · contradiction
        | _ => contradiction
    | timestamp t =>
        cases w with
        | timestamp u =>
            simp only [compare?] at h
            split at h <;> simp at h
        | _ => contradiction
    | text s => cases w <;> simp [compare?] at h
    | guid g => cases w <;> simp [compare?] at h
    | date d => cases w <;> simp [compare?] at h
    | _ => contradiction
  · rintro ⟨rfl, ⟨hnan, hdecimal⟩⟩
    exact congrArg some (if_pos (by simp [hnan, hdecimal]))

theorem isNaN_and_isDecimal_of_isSignaling {n : Number} (h : n.isSignaling = true) :
    n.isNaN = true ∧ n.isDecimal = true := by
  rcases n with b | n | (⟨negative, significand, exponent⟩ | negative | _) | d
  · contradiction
  · contradiction
  · have hfinite : (Number.double (.finite negative significand exponent)).isSignaling = false := by
      simp only [Number.isSignaling, Number.exact, Number.exactDouble]
      split <;> rename_i heq
      · split at heq <;> contradiction
      · rfl
    rw [hfinite] at h
    contradiction
  · contradiction
  · contradiction
  · cases d with
    | nan negative signaling payload => exact ⟨rfl, rfl⟩
    | _ => contradiction

theorem EqualityClash.orderClash {v w : Comparable} (h : EqualityClash v w) : OrderClash v w := by
  obtain ⟨hm | hn⟩ := h
  · obtain ⟨hnan, hdecimal⟩ := isNaN_and_isDecimal_of_isSignaling hm
    exact ⟨.inl hnan, .inl hdecimal⟩
  · obtain ⟨hnan, hdecimal⟩ := isNaN_and_isDecimal_of_isSignaling hn
    exact ⟨.inr hnan, .inr hdecimal⟩

end Comparable

/-! ## Conditions -/

/-- What a record compares by under a name, unless its attribute is absent or null. -/
def Record.present? (r : Record) (attr : Json) : Option Comparable :=
  match Condition.lookup r attr with
  | .ok v => if v.isConcrete then some v.comparable else none
  | .error _ => none

namespace Condition

open Comparable

/-- What a condition compares a value with. -/
def expected (c : Condition) (actual : Comparable) : List Comparable :=
  c.values.map fun v ↦ coerce actual v.comparable

/-- Looking for a value in a list meets a clash before it finds the value. -/
def SearchClash (actual : Comparable) : List Comparable → Prop
  | [] => False
  | v :: vs => EqualityClash v actual ∨
      ((v.isDocumentNaN && actual.isDocumentNaN) = false ∧ v.equal actual = .ok false ∧
        SearchClash actual vs)

/-- A condition cannot be decided on a value. -/
def ClashesOn (c : Condition) (actual : Comparable) : Prop :=
  match c.operator with
  | .equal | .notEqual => ∃ w ∈ c.expected actual, EqualityClash actual w
  | .within | .notWithin => SearchClash actual (c.expected actual)
  | .greaterThan | .greaterEqual | .lessThan | .lessEqual =>
    ∃ w ∈ c.expected actual, OrderClash actual w
  | _ => False

/-- A condition cannot be decided on a record. -/
def Clashes (r : Record) (c : Condition) : Prop := ∃ v, r.present? c.attr = some v ∧ c.ClashesOn v

/-- Documents have no signaling NaN that is not a decimal. -/
theorem not_equalityClash_of_isDocumentNaN {v w : Comparable} (hv : v.isDocumentNaN = true)
    (hw : w.isDocumentNaN = true) : ¬EqualityClash v w := by
  rintro ⟨h⟩
  rename_i m n
  have hnan : ∀ n : Number, (Comparable.number n).isDocumentNaN = true → n.isSignaling = false := by
    intro n hn
    unfold isDocumentNaN at hn
    split at hn
    · rename_i heq
      rw [Comparable.number.inj heq]
      rfl
    · contradiction
  rw [hnan m hv, hnan n hw] at h
  simp at h

theorem isOneOf_eq_error_iff {actual : Comparable} {vs : List Comparable} {cause : Breakdown} :
    isOneOf actual vs = .error cause ↔ cause = .nanComparison ∧ SearchClash actual vs := by
  induction vs with
  | nil => simp [isOneOf, SearchClash]
  | cons v vs ih =>
      rw [isOneOf, SearchClash]
      cases hsame : v.isDocumentNaN && actual.isDocumentNaN with
      | true =>
          obtain ⟨hv, hactual⟩ := Bool.and_eq_true_iff.mp hsame
          simp [not_equalityClash_of_isDocumentNaN hv hactual]
      | false =>
          cases hequal : v.equal actual with
          | error cause' =>
              obtain ⟨rfl, hclash⟩ := equal_eq_error_iff.mp hequal
              simp [bind, Except.bind, hclash, eq_comm]
          | ok found =>
              have hclash : ¬EqualityClash v actual := by
                intro hclash
                rw [equal_eq_error_iff.mpr ⟨rfl, hclash⟩] at hequal
                contradiction
              cases found with
              | true => simp [bind, Except.bind, hclash]
              | false => simp [bind, Except.bind, hclash, ih]

/-- A test that breaks down exactly where there is a clash, and has faults of queries apart from
that. -/
structure ClashesIff {α : Type} (x : Except Fault α) (clash : Prop) : Prop where
  failsOnlyBy : FailsOnlyBy (fun cause ↦ cause = .nanComparison ∧ clash) x
  of_clash : clash → x = .error (.breakdown .nanComparison)

namespace ClashesIff

variable {α β : Type} {clash : Prop}

theorem ok (a : α) (h : ¬clash) : ClashesIff (.ok a) clash where
  failsOnlyBy := .ok a
  of_clash := fun hclash ↦ absurd hclash h

theorem congr {x : Except Fault α} {clash' : Prop} (h : ClashesIff x clash)
    (hiff : clash ↔ clash') : ClashesIff x clash' := by
  rwa [← hiff]

theorem mapError_breakdown {x : Except Breakdown α}
    (h : ∀ cause, x = .error cause ↔ cause = .nanComparison ∧ clash) :
    ClashesIff (x.mapError .breakdown) clash where
  failsOnlyBy := .mapError_breakdown fun cause hcause ↦ (h cause).mp hcause
  of_clash := fun hclash ↦ by rw [(h _).mpr ⟨rfl, hclash⟩]; rfl

end ClashesIff

theorem compareWith_clashesIff (c : Condition) (actual expected : Comparable) :
    ClashesIff (c.compareWith actual expected) (OrderClash actual expected) := by
  unfold compareWith
  cases horder : actual.compare? expected with
  | none =>
      refine ⟨.query _, fun hclash ↦ ?_⟩
      rw [compare?_eq_error_iff.mpr ⟨rfl, hclash⟩] at horder
      contradiction
  | some order =>
      refine .mapError_breakdown fun cause ↦ ?_
      rw [← compare?_eq_error_iff, horder, Option.some.injEq]
      cases order with
      | error cause' => simp [Except.map]
      | ok o => simp [Except.map]

theorem textTest_ne_error (op : Operator) (actual : Comparable) (t : String) (cause : Breakdown) :
    textTest op actual [coerce actual (.text t)] ≠ .error cause := by
  cases actual with
  | text s => cases op <;> nofun
  | _ => nofun

/-- A well-formed condition breaks down on a value exactly if they clash. -/
theorem holdsOn_clashesIff {c : Condition} (hc : c.WellFormed) (v : Value) :
    ClashesIff (c.holdsOn v) (c.ClashesOn v.comparable) := by
  obtain ⟨attr, operator, values⟩ := c
  cases operator with
  | null => exact .ok _ id
  | notNull => exact .ok _ id
  | equal =>
      obtain ⟨w, rfl⟩ := hc
      refine .mapError_breakdown fun cause ↦ equal_eq_error_iff.trans ?_
      simp [ClashesOn, expected]
  | notEqual =>
      obtain ⟨w, rfl⟩ := hc
      refine .mapError_breakdown fun cause ↦ map_eq_error_iff.trans (equal_eq_error_iff.trans ?_)
      simp [ClashesOn, expected]
  | within => exact .mapError_breakdown fun cause ↦ isOneOf_eq_error_iff
  | notWithin =>
      exact .mapError_breakdown fun cause ↦ map_eq_error_iff.trans isOneOf_eq_error_iff
  | greaterThan | greaterEqual | lessThan | lessEqual =>
      obtain ⟨w, rfl⟩ := hc
      exact (compareWith_clashesIff _ _ _).congr (by simp [ClashesOn, expected])
  | like | notLike | beginsWith | endsWith =>
      obtain ⟨t, rfl⟩ := hc
      exact .mapError_breakdown fun cause ↦
        iff_of_false (textTest_ne_error _ v.comparable (Text.caseFold t) cause) And.right

theorem holds_clashesIff {c : Condition} (hc : c.WellFormed) (hattr : c.attr.IsText)
    (r : Record) : ClashesIff (c.holds r) (c.Clashes r) := by
  obtain ⟨name, hname⟩ := hattr
  have hlookup : lookup r c.attr = .ok (r.lookup name) := by rw [hname, lookup]
  simp only [holds, Clashes, Record.present?, hlookup]
  cases hconcrete : (r.lookup name).isConcrete with
  | false => exact .ok _ (by simp)
  | true => exact (holdsOn_clashesIff hc _).congr (by simp)

end Condition

/-! ## Filters -/

theorem exists_of_mapM_eq_ok {ε α β : Type} {f : α → Except ε β} {xs : List α} {ys : List β}
    (h : xs.mapM f = .ok ys) : ∀ x ∈ xs, ∃ y, f x = .ok y := by
  induction xs generalizing ys with
  | nil => simp
  | cons x xs ih =>
      rw [List.mapM_cons] at h
      obtain ⟨y, hy, h⟩ := bind_eq_ok_iff.mp h
      obtain ⟨ys', hys', -⟩ := bind_eq_ok_iff.mp h
      exact List.forall_mem_cons.mpr ⟨⟨y, hy⟩, ih hys'⟩

namespace Filter

theorem tree_induction {motive : Filter → Prop}
    (filter : ∀ f, (∀ g ∈ f.filters, motive g) → motive f) (f : Filter) : motive f := by
  have hall : ∀ fs : List Filter, ∀ g ∈ fs, motive g := by
    intro fs
    induction fs using forest_induction with
    | nil => simp
    | cons f fs below beside => exact List.forall_mem_cons.mpr ⟨filter f below, beside⟩
  exact hall [f] f List.mem_cons_self

theorem mem_allConditionsEach {fs : List Filter} {c : Condition} :
    c ∈ allConditionsEach fs ↔ ∃ f ∈ fs, c ∈ f.allConditions := by
  induction fs with
  | nil => simp [allConditionsEach]
  | cons f fs ih => simp [allConditionsEach, ih]

theorem mem_allConditions {f : Filter} {c : Condition} :
    c ∈ f.allConditions ↔ c ∈ f.conditions ∨ ∃ g ∈ f.filters, c ∈ g.allConditions := by
  cases f
  rw [allConditions, List.mem_append, mem_allConditionsEach]

theorem allEmpty_iff {fs : List Filter} : allEmpty fs = true ↔ ∀ f ∈ fs, f.isEmpty = true := by
  induction fs with
  | nil => simp [allEmpty]
  | cons f fs ih => simp [allEmpty, ih]

theorem not_mem_allConditions_of_isEmpty {f : Filter} (h : f.isEmpty = true) (c : Condition) :
    c ∉ f.allConditions := by
  induction f using tree_induction with
  | filter f ih =>
      have hempty : f.conditions = [] ∧ ∀ g ∈ f.filters, g.isEmpty = true := by
        cases f
        simpa [isEmpty, allEmpty_iff] using h
      rw [mem_allConditions, hempty.1]
      rintro (hc | ⟨g, hg, hc⟩)
      · exact List.not_mem_nil hc
      · exact ih g hg (hempty.2 g hg) hc

theorem holds_of_isEmpty {f : Filter} (h : f.isEmpty = true) (r : Record) :
    f.holds r = .ok true := by
  cases f
  rw [isEmpty] at h
  rw [holds, if_pos h]

/-- A filter with conditions makes its own tests and then those of the filters in it. -/
theorem holds_of_not_isEmpty {f : Filter} (h : f.isEmpty = false) (r : Record) :
    f.holds r = (do
      let own ← f.conditions.mapM (Condition.holds r)
      let nested ← holdsEach r f.filters
      .ok (f.connective.combine (own ++ nested))) := by
  cases f
  rw [isEmpty] at h
  rw [holds, h]
  rfl

variable {r : Record} {causes : Breakdown → Prop}

theorem holdsEach_failsOnlyBy {fs : List Filter}
    (h : ∀ f ∈ fs, FailsOnlyBy causes (f.holds r)) : FailsOnlyBy causes (holdsEach r fs) := by
  induction fs with
  | nil => exact .ok []
  | cons f fs ih =>
      obtain ⟨hf, hfs⟩ := List.forall_mem_cons.mp h
      rw [holdsEach]
      split
      · exact ih hfs
      · exact hf.bind fun _ _ ↦ (ih hfs).bind fun _ _ ↦ .ok _

/-- A filter fails only as its conditions do. -/
theorem holds_failsOnlyBy {f : Filter}
    (h : ∀ c ∈ f.allConditions, FailsOnlyBy causes (c.holds r)) :
    FailsOnlyBy causes (f.holds r) := by
  induction f using tree_induction with
  | filter f ih =>
      cases hempty : f.isEmpty with
      | true => exact holds_of_isEmpty hempty r ▸ .ok true
      | false =>
          rw [holds_of_not_isEmpty hempty]
          have hown := FailsOnlyBy.mapM fun c hc ↦ h c (mem_allConditions.mpr (.inl hc))
          have hnested := holdsEach_failsOnlyBy fun g hg ↦
            ih g hg fun c hc ↦ h c (mem_allConditions.mpr (.inr ⟨g, hg, hc⟩))
          exact hown.bind fun _ _ ↦ hnested.bind fun _ _ ↦ .ok _

theorem exists_of_holdsEach_eq_ok {fs : List Filter} {outcomes : List Bool}
    (h : holdsEach r fs = .ok outcomes) : ∀ f ∈ fs, ∃ b, f.holds r = .ok b := by
  induction fs generalizing outcomes with
  | nil => simp
  | cons f fs ih =>
      rw [holdsEach] at h
      cases hempty : f.isEmpty with
      | true =>
          rw [hempty, if_pos rfl] at h
          exact List.forall_mem_cons.mpr ⟨⟨true, holds_of_isEmpty hempty r⟩, ih h⟩
      | false =>
          rw [hempty, if_neg Bool.false_ne_true] at h
          obtain ⟨b, hb, h⟩ := bind_eq_ok_iff.mp h
          obtain ⟨bs, hbs, -⟩ := bind_eq_ok_iff.mp h
          exact List.forall_mem_cons.mpr ⟨⟨b, hb⟩, ih hbs⟩

/-- A filter makes all its tests: none can be undecided where the filter is decided. -/
theorem exists_of_holds_eq_ok {f : Filter} {b : Bool} (h : f.holds r = .ok b) :
    ∀ c ∈ f.allConditions, ∃ b, c.holds r = .ok b := by
  induction f using tree_induction generalizing b with
  | filter f ih =>
      intro c hc
      cases hempty : f.isEmpty with
      | true => exact absurd hc (not_mem_allConditions_of_isEmpty hempty c)
      | false =>
          rw [holds_of_not_isEmpty hempty] at h
          obtain ⟨own, hown, h⟩ := bind_eq_ok_iff.mp h
          obtain ⟨nested, hnested, -⟩ := bind_eq_ok_iff.mp h
          rcases mem_allConditions.mp hc with hc | ⟨g, hg, hc⟩
          · exact exists_of_mapM_eq_ok hown c hc
          · obtain ⟨b', hb'⟩ := exists_of_holdsEach_eq_ok hnested g hg
            exact ih g hg hb' c hc

/-- One of the conditions of a filter cannot be decided on a record. -/
def Clashes (r : Record) (f : Filter) : Prop := ∃ c ∈ f.allConditions, c.Clashes r

variable {f : Filter} (hf : f.WellFormed) (htexts : ∀ c ∈ f.allConditions, c.attr.IsText)

include hf htexts

theorem failsOnlyBy_clashes :
    FailsOnlyBy (fun cause ↦ cause = .nanComparison ∧ f.Clashes r) (f.holds r) := by
  apply holds_failsOnlyBy
  intro c hc
  have hcondition := (Condition.holds_clashesIff (hf c hc) (htexts c hc) r).failsOnlyBy
  exact hcondition.mono fun cause hcause ↦ ⟨hcause.1, c, hc, hcause.2⟩

theorem not_clashes_of_holds_eq_ok {b : Bool} (h : f.holds r = .ok b) : ¬f.Clashes r := by
  rintro ⟨c, hc, hclash⟩
  obtain ⟨b', hb'⟩ := exists_of_holds_eq_ok h c hc
  rw [(Condition.holds_clashesIff (hf c hc) (htexts c hc) r).of_clash hclash] at hb'
  contradiction

end Filter

end OrgService
