import OrgService.Proofs.Number.Exact
import OrgService.Proofs.Query.Validity

/-!
# Aliases of validated queries

Links are found by their aliases, so an alias must equal itself. Aliases of a validated query are
texts, numbers or truth values; of these only a NaN does not equal itself.
-/

namespace OrgService

theorem Exact.compareFinite_self (a e : Int) : compareFinite a e a e = .eq := by
  simp [compareFinite, compareMagnitudes]

theorem Exact.compare?_nan (x : Exact) (signaling : Bool) : x.compare? (.nan signaling) = none := by
  cases x <;> rfl

theorem Exact.compare?_self {x : Exact} (h : ∀ signaling, x ≠ .nan signaling) :
    x.compare? x = some .eq := by
  cases x with
  | finite a e => simp [compare?, compareFinite_self]
  | infinity negative => simp [compare?]
  | nan signaling => exact absurd rfl (h signaling)

theorem Exact.compare?_eq_some_eq_comm (x y : Exact) :
    x.compare? y = some .eq ↔ y.compare? x = some .eq := by
  rw [compare?_eq, compare?_eq]
  cases x.place? <;> cases y.place? <;> simp
  exact eq_comm

/-- A name other than NaN is the same as itself. -/
theorem Json.same_self {name : Json} (hname : name.isNameable = true)
    (hnan : name.isNaN = false) : name.same name = true := by
  cases name with
  | null => simp [same]
  | bool b => cases b <;> simp [same, sameNumber, number?, Number.exact, Exact.compare?_self]
  | int n => simp [same, sameNumber, number?, Number.exact, Exact.compare?_self]
  | double x =>
      cases x with
      | finite negative significand exponent =>
          have hfinite : ∀ signaling,
              Number.exactDouble negative significand exponent ≠ .nan signaling := by
            intro signaling
            unfold Number.exactDouble
            split <;> simp
          simp [same, sameNumber, number?, Number.exact, Exact.compare?_self hfinite]
      | infinity negative =>
          simp [same, sameNumber, number?, Number.exact, Exact.compare?_self]
      | nan => simp [isNaN] at hnan
  | str t => simp [same]
  | arr items => simp [isNameable] at hname
  | obj members => simp [isNameable] at hname

theorem Json.sameNumber_comm (a b : Json) : a.sameNumber b = b.sameNumber a := by
  unfold sameNumber
  cases a.number? <;> cases b.number? <;> try rfl
  rw [Bool.eq_iff_iff, beq_iff_eq, beq_iff_eq, Exact.compare?_eq_some_eq_comm]

theorem Json.same_comm {a b : Json} (ha : a.isNameable = true) (hb : b.isNameable = true) :
    a.same b = b.same a := by
  cases a <;> cases b <;> simp_all [same, isNameable, sameNumber_comm, eq_comm]

theorem Json.eq_nan_of_isNaN {name : Json} (hnan : name.isNaN = true) : name = .double .nan := by
  unfold isNaN at hnan
  split at hnan
  · rfl
  · contradiction

/-- Nothing is the same as a NaN. -/
theorem Json.same_of_isNaN {name : Json} (hnan : name.isNaN = true) (x : Json) :
    x.same name = false := by
  obtain rfl := eq_nan_of_isNaN hnan
  cases x <;> simp [same, sameNumber, number?, Number.exact, Exact.compare?_nan]

namespace Query

theorem isNameable_of_checkName {name : Json} (h : name.checkName = .ok ()) :
    name.isNameable = true := by
  unfold Json.checkName at h
  split at h
  · assumption
  · contradiction

theorem isNameable_of_requireType {s : Snapshot} {name : Json}
    (h : requireType s name = .ok ()) : name.isNameable = true := by
  cases name with
  | str n => rfl
  | _ =>
      obtain ⟨_, -, h⟩ := bind_eq_ok_iff.mp h
      contradiction

theorem isNameable_of_requireAttributes {s : Snapshot} {entityName : Json} {attrs : List Json}
    (h : requireAttributes s entityName attrs = .ok ()) :
    ∀ attr ∈ attrs, attr.isNameable = true := by
  obtain ⟨_, hnames, -⟩ := bind_eq_ok_iff.mp h
  clear h
  induction attrs with
  | nil => simp
  | cons attr attrs ih =>
      obtain ⟨_, hname, hnames⟩ := bind_eq_ok_iff.mp hnames
      exact List.forall_mem_cons.mpr ⟨isNameable_of_checkName hname, ih hnames⟩

end Query

/-- Whatever a link is planned with can be looked up: its target, its attributes, its alias. -/
structure PlannedLink.IsNameable (p : PlannedLink) : Prop where
  toEntity : p.link.toEntity.isNameable = true
  fromAttr : p.link.fromAttr.isNameable = true
  toAttr : p.link.toAttr.isNameable = true
  aliasName : p.aliasName.isNameable = true

namespace Query

theorem isNameable_of_checkLink {s : Snapshot} {p : PlannedLink} {attachedTo : Json}
    (h : checkLink s p attachedTo = .ok ()) : p.IsNameable := by
  simp only [checkLink_eq, bind_eq_ok_iff] at h
  obtain ⟨_, -, _, htarget, _, -, _, hfrom, _, hto, hname⟩ := h
  constructor
  · exact isNameable_of_requireType htarget
  · exact isNameable_of_requireAttributes hfrom _ List.mem_cons_self
  · exact isNameable_of_requireAttributes hto _ List.mem_cons_self
  · exact isNameable_of_checkName hname

theorem isNameable_of_checkLinks {s : Snapshot} {types : AliasTypes} {ps : List PlannedLink}
    (h : checkLinks s types ps = .ok ()) : ∀ p ∈ ps, p.IsNameable := by
  induction ps generalizing types with
  | nil => simp
  | cons p ps ih =>
      obtain ⟨_, hlink, hlinks⟩ := bind_eq_ok_iff.mp h
      exact List.forall_mem_cons.mpr ⟨isNameable_of_checkLink hlink, ih hlinks⟩

/-- A validated query is named throughout by what can be looked up. -/
theorem isNameable_of_validate {q : Query} {s : Snapshot} {plans : List PlannedLink}
    (h : q.validate s plans = .ok ()) :
    q.entityName.isNameable = true ∧ ∀ p ∈ plans, p.IsNameable := by
  simp only [validate_eq, bind_eq_ok_iff] at h
  obtain ⟨_, -, _, hbase, _, -, _, -, hlinks⟩ := h
  exact ⟨isNameable_of_requireType hbase, isNameable_of_checkLinks hlinks⟩

/-- No link of a query, at any depth, has a NaN for an alias. -/
def NoNaNAlias (q : Query) : Prop := ∀ l ∈ Link.preorderEach q.links, l.aliasName.isNaN = false

theorem same_self_of_validate {q : Query} {s : Snapshot} {plans : List PlannedLink}
    (hplans : q.planLinks = .ok plans) (hvalidated : q.validate s plans = .ok ())
    (hnan : q.NoNaNAlias) : ∀ p ∈ plans, p.aliasName.same p.aliasName = true := by
  intro p hp
  apply Json.same_self ((isNameable_of_validate hvalidated).2 p hp).aliasName
  have hmem : p.aliasName ∈ Link.aliases 0 q.links := by
    rw [← Link.map_aliasName_numberedEach none, ← (planLinks_eq_ok_iff.mp hplans).1]
    exact List.mem_map_of_mem hp
  obtain ⟨i, hi, heq⟩ := List.mem_mapIdx.mp hmem
  rw [← heq, Link.effectiveAlias]
  split
  · exact hnan _ (List.getElem_mem hi)
  · rfl

end Query

end OrgService
