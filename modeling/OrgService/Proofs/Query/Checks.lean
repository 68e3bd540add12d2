import Mathlib.Data.List.Basic
import OrgService.Proofs.Trace
import OrgService.Query.Validation

/-!
# Checks

Validation is a sequence of checks. Each check on a query whose names are texts decides a
condition: it passes if the condition holds and fails with a fault of the query if not. Sequences
of such checks decide the conjunction of their conditions.
-/

namespace OrgService

/-- A check passes if a condition holds, and else fails with a fault of the query. -/
def Decides (x : Except Fault Unit) (P : Prop) : Prop :=
  P ∧ x = .ok () ∨ ¬P ∧ ∃ f, x = .error (.query f)

namespace Decides

variable {x y : Except Fault Unit} {P Q : Prop}

theorem ok_iff (h : Decides x P) : x = .ok () ↔ P := by
  rcases h with ⟨hP, rfl⟩ | ⟨hP, f, rfl⟩ <;> simp [hP]

theorem error (h : Decides x P) (hP : ¬P) : ∃ f, x = .error (.query f) :=
  h.elim (fun h ↦ absurd h.1 hP) And.right

theorem congr (h : Decides x P) (hiff : P ↔ Q) : Decides x Q := by
  rwa [Decides, ← hiff]

protected theorem pure (h : P) : Decides (.ok ()) P := .inl ⟨h, rfl⟩

/-- A check followed by another one, which need only decide its condition after the first has
passed. -/
theorem bind (hx : Decides x P) (hy : P → Decides y Q) : Decides (do x; y) (P ∧ Q) := by
  rcases hx with ⟨hP, rfl⟩ | ⟨hP, f, rfl⟩
  · rcases hy hP with ⟨hQ, rfl⟩ | ⟨hQ, f, rfl⟩
    · exact .inl ⟨⟨hP, hQ⟩, rfl⟩
    · exact .inr ⟨fun h ↦ hQ h.2, f, rfl⟩
  · exact .inr ⟨fun h ↦ hP h.1, f, rfl⟩

theorem ite {c : Prop} [Decidable c] {f : QueryFault} :
    Decides (if c then .ok () else .error (.query f)) c := by
  by_cases h : c
  · exact .inl ⟨h, if_pos h⟩
  · exact .inr ⟨h, f, if_neg h⟩

theorem forM {α : Type} {check : α → Except Fault Unit} {R : α → Prop} {as : List α}
    (h : ∀ a ∈ as, Decides (check a) (R a)) : Decides (as.forM check) (∀ a ∈ as, R a) := by
  induction as with
  | nil => exact .pure (by simp)
  | cons a as ih =>
      change Decides (do check a; as.forM check) _
      refine ((h a List.mem_cons_self).bind fun _ ↦ ih fun b hb ↦ h b (.tail _ hb)).congr ?_
      simp

end Decides

/-! ## Filters -/

/-- The values of a condition are as many and of the kind as its operator needs. -/
def Condition.WellFormed (c : Condition) : Prop :=
  match c.operator with
  | .null | .notNull => c.values = []
  | .within | .notWithin => c.values ≠ []
  | .like | .notLike | .beginsWith | .endsWith => ∃ t, c.values = [.text t]
  | _ => ∃ v, c.values = [v]

theorem Condition.problem?_eq_none_iff (c : Condition) : c.problem? = none ↔ c.WellFormed := by
  obtain ⟨attr, operator, values⟩ := c
  rcases values with _ | ⟨v, _ | ⟨w, vs⟩⟩
  · cases operator <;> simp [problem?, WellFormed, Operator.arity]
  · cases operator <;> cases v <;> simp [problem?, WellFormed, Operator.arity, isText]
  · cases operator <;> simp [problem?, WellFormed, Operator.arity]

theorem Condition.check_decides (c : Condition) :
    Decides (c.check.mapError .query) c.WellFormed := by
  unfold check
  cases h : c.problem? with
  | none => exact .inl ⟨c.problem?_eq_none_iff.mp h, rfl⟩
  | some problem =>
      refine .inr ⟨fun hc ↦ ?_, _, rfl⟩
      simp [c.problem?_eq_none_iff.mpr hc] at h

namespace Filter

/-- Induction on a list of filters: the filters nested in the first one and those beside it. -/
theorem forest_induction {motive : List Filter → Prop} (nil : motive [])
    (cons : ∀ f fs, motive f.filters → motive fs → motive (f :: fs)) : ∀ fs, motive fs
  | [] => nil
  | f :: fs =>
      have below : sizeOf f.filters < sizeOf (f :: fs) := by
        cases f
        simp only [List.cons.sizeOf_spec, mk.sizeOf_spec]
        omega
      cons f fs (forest_induction nil cons f.filters) (forest_induction nil cons fs)

mutual

/-- The conditions of a filter at every depth, its own before those of nested filters. -/
def allConditions : Filter → List Condition
  | ⟨_, conditions, filters⟩ => conditions ++ allConditionsEach filters

def allConditionsEach : List Filter → List Condition
  | [] => []
  | f :: fs => f.allConditions ++ allConditionsEach fs

end

theorem attributesEach_eq (fs : List Filter) :
    attributesEach fs = (allConditionsEach fs).map Condition.attr := by
  induction fs using forest_induction with
  | nil => rfl
  | cons f fs below beside =>
      cases f
      simp_all [attributesEach, attributes, allConditionsEach, allConditions]

theorem attributes_eq (f : Filter) : f.attributes = f.allConditions.map Condition.attr := by
  have h := attributesEach_eq [f]
  simpa [attributesEach, allConditionsEach] using h

theorem checkEach_eq (fs : List Filter) :
    checkEach fs = (allConditionsEach fs).forM Condition.check := by
  induction fs using forest_induction with
  | nil => rfl
  | cons f fs below beside =>
      cases f
      simp_all [checkEach, check, allConditionsEach, allConditions, List.forM_append]

theorem check_eq (f : Filter) : f.check = f.allConditions.forM Condition.check := by
  cases f
  simp only [check, allConditions, checkEach_eq, List.forM_eq_forM, List.forM_append]

def WellFormed (f : Filter) : Prop := ∀ c ∈ f.allConditions, c.WellFormed

theorem mapError_forM {conditions : List Condition} :
    (conditions.forM Condition.check).mapError Fault.query =
      conditions.forM fun c ↦ c.check.mapError Fault.query := by
  induction conditions with
  | nil => rfl
  | cons c cs ih =>
      change (do c.check; cs.forM Condition.check).mapError Fault.query =
        (do c.check.mapError Fault.query; cs.forM fun c ↦ c.check.mapError Fault.query)
      rw [← ih]
      cases c.check <;> rfl

theorem check_decides (f : Filter) : Decides (f.check.mapError .query) f.WellFormed := by
  rw [check_eq, mapError_forM]
  exact .forM fun c _ ↦ c.check_decides

end Filter

/-! ## Names -/

namespace Json

def IsText (name : Json) : Prop := ∃ t, name = .str t

theorem IsText.isNameable {name : Json} (h : name.IsText) : name.isNameable = true := by
  obtain ⟨t, rfl⟩ := h
  rfl

theorem IsText.same_iff {a b : Json} (ha : a.IsText) (hb : b.IsText) :
    a.same b = true ↔ a = b := by
  obtain ⟨t, rfl⟩ := ha
  obtain ⟨u, rfl⟩ := hb
  simp [same]

theorem checkName_of_isNameable {name : Json} (h : name.isNameable = true) :
    name.checkName = .ok () := by
  simp [checkName, h]

theorem forM_checkName_of_isText {names : List Json} (h : ∀ a ∈ names, a.IsText) :
    names.forM checkName = .ok () := by
  induction names with
  | nil => rfl
  | cons a names ih =>
      change (do a.checkName; names.forM checkName) = _
      rw [checkName_of_isNameable (h a List.mem_cons_self).isNameable]
      exact ih fun b hb ↦ h b (.tail _ hb)

theorem mem_dropRepeated {names : List Json} (h : ∀ a ∈ names, a.IsText) {a : Json} :
    a ∈ dropRepeated names ↔ a ∈ names := by
  induction names with
  | nil => rfl
  | cons b names ih =>
      simp only [dropRepeated, List.mem_cons, List.mem_filter,
        ih fun c hc ↦ h c (.tail _ hc)]
      constructor
      · rintro (rfl | ⟨ha, -⟩)
        · exact .inl rfl
        · exact .inr ha
      · rintro (rfl | ha)
        · exact .inl rfl
        · by_cases hsame : b.same a = true
          · exact .inl (((h b List.mem_cons_self).same_iff (h a (.tail _ ha))).mp hsame).symm
          · exact .inr ⟨ha, by simpa using hsame⟩

/-- Texts can be sorted, and sorting neither adds nor loses any. -/
theorem sortNames_of_isText {names : List Json} (h : ∀ a ∈ names, a.IsText) :
    ∃ sorted, sortNames names = .ok sorted ∧ ∀ a, a ∈ sorted ↔ a ∈ names := by
  unfold sortNames
  have hmem := fun a ↦ mem_dropRepeated h (a := a)
  cases hdropped : dropRepeated names with
  | nil => exact ⟨[], rfl, fun a ↦ by rw [← hmem a, hdropped]⟩
  | cons x xs =>
      rw [hdropped] at hmem
      have hcomparable : xs.find? (fun y ↦ !x.namesComparable y) = none := by
        apply List.find?_eq_none.mpr
        intro y hy
        obtain ⟨t, rfl⟩ := h x ((hmem x).mp List.mem_cons_self)
        obtain ⟨u, rfl⟩ := h y ((hmem y).mp (.tail _ hy))
        simp [namesComparable]
      refine ⟨(x :: xs).mergeSort namePrecedes, by simp only [hcomparable], fun a ↦ ?_⟩
      rw [List.mem_mergeSort, hmem]

end Json

namespace Query

def Seeded (s : Snapshot) (name : Json) : Prop := ∃ n, name = .str n ∧ s.hasType n = true

def Known (s : Snapshot) (entityName attr : Json) : Prop :=
  ∃ n a, entityName = .str n ∧ attr = .str a ∧ a ∈ s.knownAttributes n

variable {s : Snapshot}

theorem isKnown_iff {entityName attr : Json} :
    isKnown s entityName attr = true ↔ Known s entityName attr := by
  cases entityName <;> cases attr <;> simp [isKnown, Known]

theorem requireType_decides {name : Json} (hname : name.IsText) :
    Decides (requireType s name) (Seeded s name) := by
  obtain ⟨n, rfl⟩ := hname
  exact Decides.ite.congr (by simp [Seeded])

theorem requireAttributes_decides {entityName : Json} {attrs : List Json}
    (hattrs : ∀ a ∈ attrs, a.IsText) :
    Decides (requireAttributes s entityName attrs) (∀ a ∈ attrs, Known s entityName a) := by
  obtain ⟨sorted, hsorted, hmem⟩ := Json.sortNames_of_isText hattrs
  simp only [requireAttributes, Json.forM_checkName_of_isText hattrs, hsorted, bind, Except.bind]
  cases hfind : sorted.find? fun a ↦ !isKnown s entityName a with
  | none =>
      refine .inl ⟨fun a ha ↦ ?_, rfl⟩
      have hknown := List.find?_eq_none.mp hfind a ((hmem a).mpr ha)
      exact isKnown_iff.mp (by simpa using hknown)
  | some a =>
      refine .inr ⟨fun hall ↦ ?_, _, rfl⟩
      have hunknown := List.find?_some hfind
      have hknown := isKnown_iff.mpr (hall a ((hmem a).mp (List.mem_of_find?_eq_some hfind)))
      simp [hknown] at hunknown

end Query

/-! ## Links -/

namespace Link

/-- The names of a link and of the attributes that its criteria test are texts. -/
structure NamedByTexts (l : Link) : Prop where
  fromEntity : l.fromEntity.IsText
  toEntity : l.toEntity.IsText
  fromAttr : l.fromAttr.IsText
  toAttr : l.toAttr.IsText
  criteria : ∀ c ∈ l.criteria.allConditions, c.attr.IsText

/-- A link is fit to hang from a record of some type. -/
structure FitsAt (l : Link) (s : Snapshot) (attachedTo : Json) : Prop where
  source : l.fromEntity = attachedTo
  target : Query.Seeded s l.toEntity
  criteria : l.criteria.WellFormed
  fromAttr : Query.Known s attachedTo l.fromAttr
  toAttr : Query.Known s l.toEntity l.toAttr
  tested : ∀ c ∈ l.criteria.allConditions, Query.Known s l.toEntity c.attr

end Link

namespace Query

variable {s : Snapshot}

/-- A link must start from the type of the record it hangs from. -/
def requireSource (p : PlannedLink) (attachedTo : Json) : Except Fault Unit :=
  if p.link.fromEntity.same attachedTo = true then .ok ()
  else .error (.query (.misplacedLink p.aliasName p.link.fromEntity attachedTo))

theorem checkLink_eq (s : Snapshot) (p : PlannedLink) (attachedTo : Json) :
    checkLink s p attachedTo = (do
      requireSource p attachedTo
      requireType s p.link.toEntity
      p.link.criteria.check.mapError .query
      requireAttributes s attachedTo [p.link.fromAttr]
      requireAttributes s p.link.toEntity (p.link.toAttr :: p.link.criteria.attributes)
      p.aliasName.checkName) := by
  unfold checkLink requireSource
  cases p.link.fromEntity.same attachedTo <;> rfl

theorem checkLink_decides {p : PlannedLink} {attachedTo : Json} (hlink : p.link.NamedByTexts)
    (hattached : attachedTo.IsText) (halias : p.aliasName.isNameable = true) :
    Decides (checkLink s p attachedTo) (p.link.FitsAt s attachedTo) := by
  have htested : ∀ a ∈ p.link.toAttr :: p.link.criteria.attributes, a.IsText := by
    rw [Filter.attributes_eq]
    simpa using ⟨hlink.toAttr, hlink.criteria⟩
  have hsame := hlink.fromEntity.same_iff hattached
  rw [checkLink_eq, Json.checkName_of_isNameable halias]
  refine (Decides.bind (P := _ = true) .ite fun _ ↦ .bind (requireType_decides hlink.toEntity)
    fun _ ↦ .bind (Filter.check_decides _) fun _ ↦
    .bind (requireAttributes_decides (by simpa using hlink.fromAttr)) fun _ ↦
    .bind (requireAttributes_decides htested) fun _ ↦ .pure trivial).congr ?_
  rw [hsame, Filter.attributes_eq]
  constructor
  · rintro ⟨hsource, htarget, hcriteria, hfrom, hto, -⟩
    simp only [List.forall_mem_cons, List.forall_mem_map] at hfrom hto
    exact ⟨hsource, htarget, hcriteria, hfrom.1, hto.1, hto.2⟩
  · rintro ⟨hsource, htarget, hcriteria, hfrom, hto, htested⟩
    refine ⟨hsource, htarget, hcriteria, by simpa using hfrom, ?_, trivial⟩
    simp only [List.forall_mem_cons, List.forall_mem_map]
    exact ⟨hto, htested⟩

end Query

end OrgService
