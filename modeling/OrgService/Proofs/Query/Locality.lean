import OrgService.Proofs.Query.LinkForest
import OrgService.Proofs.Query.Validity
import OrgService.Proofs.Store.Contents

/-!
# Types that a query depends on

Evaluation reads the contents only under the types that the query names: that of its base records
and those its links lead to. Contents that agree on these give the same answer or the same fault,
with the same notices, whatever else they hold.
-/

namespace OrgService

/-- Both contents know a type or neither does, and they hold the same records of it in the same
order. -/
def Snapshot.AgreesOn (s s' : Snapshot) : Json → Prop
  | .str n => s.hasType n = s'.hasType n ∧ s.scan n = s'.scan n
  | _ => True

/-- The types that a query names: that of its base records and those its links lead to. -/
def Query.typeNames (q : Query) : List Json :=
  q.entityName :: (Link.preorderEach q.links).map Link.toEntity

variable {s s' : Snapshot} {name : Json}

/-- Records of other types leave alone what contents hold of a type. -/
theorem Snapshot.agreesOn_publish {batch : List (Guid × Record)}
    (hother : ∀ p ∈ batch, name ≠ .str p.2.logicalName) : s.AgreesOn (s.publish batch) name := by
  cases name with
  | str n =>
      rw [Snapshot.publish_eq]
      induction batch generalizing s with
      | nil => exact ⟨rfl, rfl⟩
      | cons p batch ih =>
          obtain ⟨hp, hother⟩ := List.forall_mem_cons.mp hother
          have hn : p.2.logicalName ≠ n := fun heq ↦ hp (heq ▸ rfl)
          obtain ⟨htype, hscan⟩ := @ih (s.put p.1 p.2) hother
          rw [List.foldl_cons]
          refine ⟨Eq.trans ?_ htype, Eq.trans ?_ hscan⟩
          · simp only [hasType, OrderedMap.contains, put, OrderedMap.get?_insert, if_neg hn]
          · rw [scan, scan, table_put, if_neg hn]
  | _ => trivial

namespace Query

/-! ## Validation -/

theorem requireType_congr (h : s.AgreesOn s' name) : requireType s name = requireType s' name := by
  cases name with
  | str n => rw [requireType, requireType, h.1]
  | _ => rfl

theorem isKnown_congr (h : s.AgreesOn s' name) (attr : Json) :
    isKnown s name attr = isKnown s' name attr := by
  cases name with
  | str n =>
      have hknown : s.knownAttributes n = s'.knownAttributes n := by
        rw [Snapshot.knownAttributes, Snapshot.knownAttributes, h.1, h.2]
      cases attr <;> simp only [isKnown, hknown]
  | _ => rfl

theorem requireAttributes_congr (h : s.AgreesOn s' name) (attrs : List Json) :
    requireAttributes s name attrs = requireAttributes s' name attrs := by
  simp only [requireAttributes, isKnown_congr h]

theorem checkLink_congr {p : PlannedLink} (hto : s.AgreesOn s' p.link.toEntity)
    (hattached : s.AgreesOn s' name) : checkLink s p name = checkLink s' p name := by
  simp only [checkLink, requireType_congr hto, requireAttributes_congr hto,
    requireAttributes_congr hattached]

/-- What a link hangs from is the base record, or was reached by a link that was checked before. -/
theorem agreesOn_typeOf? {types : AliasTypes} (h : ∀ t ∈ types, s.AgreesOn s' t.2)
    (aliasName : Option Json) : s.AgreesOn s' ((typeOf? types aliasName).getD .null) := by
  unfold typeOf?
  cases hfound : types.find? fun t ↦ sameAlias t.1 aliasName with
  | none => trivial
  | some t => exact h t (List.mem_of_find?_eq_some hfound)

theorem checkLinks_congr {types : AliasTypes} {plans : List PlannedLink}
    (htypes : ∀ t ∈ types, s.AgreesOn s' t.2)
    (hplans : ∀ p ∈ plans, s.AgreesOn s' p.link.toEntity) :
    checkLinks s types plans = checkLinks s' types plans := by
  induction plans generalizing types with
  | nil => rfl
  | cons p plans ih =>
      obtain ⟨hp, hplans⟩ := List.forall_mem_cons.mp hplans
      rw [checkLinks, checkLinks, checkLink_congr hp (agreesOn_typeOf? htypes _)]
      rw [ih (List.forall_mem_cons.mpr ⟨hp, htypes⟩) hplans]

variable {q : Query} {plans : List PlannedLink}

theorem validate_congr (hbase : s.AgreesOn s' q.entityName)
    (hplans : ∀ p ∈ plans, s.AgreesOn s' p.link.toEntity) :
    q.validate s plans = q.validate s' plans := by
  have hlinks : checkLinks s [(none, q.entityName)] plans =
      checkLinks s' [(none, q.entityName)] plans :=
    checkLinks_congr (by simpa using hbase) hplans
  simp only [validate, requireType_congr hbase, requireAttributes_congr hbase, hlinks]

/-! ## Rows -/

theorem scan_congr (h : s.AgreesOn s' name) : scan s name = scan s' name := by
  cases name with
  | str n => simp only [scan, typeName?, Except.map, Option.map_some, h.2]
  | _ => rfl

theorem allCandidates_congr (hplans : ∀ p ∈ plans, s.AgreesOn s' p.link.toEntity) :
    PlannedLink.allCandidates s plans = PlannedLink.allCandidates s' plans := by
  induction plans with
  | nil => rfl
  | cons p plans ih =>
      obtain ⟨hp, hplans⟩ := List.forall_mem_cons.mp hplans
      simp only [PlannedLink.allCandidates, PlannedLink.candidates, scan_congr hp, ih hplans]

theorem orderedRows_congr (hbase : s.AgreesOn s' q.entityName)
    (hplans : ∀ p ∈ plans, s.AgreesOn s' p.link.toEntity) :
    q.orderedRows s plans = q.orderedRows s' plans := by
  simp only [orderedRows, rows, scan_congr hbase, allCandidates_congr hplans]

/-! ## Answers -/

/-- Contents that agree on the types a query names pass the same validation and give the same
answer. -/
theorem evaluate_eq_of_agreesOn (h : ∀ name ∈ q.typeNames, s.AgreesOn s' name) :
    (∀ plans, q.planLinks = .ok plans → q.validate s plans = q.validate s' plans) ∧
      ∀ policy, q.evaluate s policy = q.evaluate s' policy := by
  obtain ⟨hbase, htargets⟩ := List.forall_mem_cons.mp h
  have hplans : ∀ plans, q.planLinks = .ok plans →
      ∀ p ∈ plans, s.AgreesOn s' p.link.toEntity := by
    intro plans hplans p hp
    obtain ⟨rfl, -⟩ := planLinks_eq_ok_iff.mp hplans
    apply htargets
    exact List.mem_map_of_mem (Link.link_mem_of_mem_numberedEach hp)
  refine ⟨fun plans hok ↦ validate_congr hbase (hplans plans hok), fun policy ↦ ?_⟩
  cases hok : q.planLinks with
  | error fault => simp only [evaluate, hok, mapError_error, Traced.silent_error_bind]
  | ok plans =>
      simp only [evaluate, hok, mapError_ok, Traced.silent_ok_bind,
        validate_congr hbase (hplans plans hok), orderedRows_congr hbase (hplans plans hok)]

/-- A task in the contents is of no account to a query of accounts and contacts. -/
theorem evaluate_eq_of_agreesOn_example :
    let task : Record := ⟨"task", some (Guid.ofNat 4), .ofList [("name", .text "Acme")]⟩
    let more := exampleContents.publish [(Guid.ofNat 4, task)]
    exampleContents.hasType "task" = false ∧ more.scan "task" = [task] ∧
      (∀ name ∈ exampleQuery.typeNames, exampleContents.AgreesOn more name) ∧
      ∀ policy,
        exampleQuery.evaluate exampleContents policy = exampleQuery.evaluate more policy := by
  intro task more
  have hagrees : ∀ name ∈ exampleQuery.typeNames, exampleContents.AgreesOn more name := by
    intro name hname
    apply Snapshot.agreesOn_publish
    simp only [List.mem_singleton, forall_eq]
    rintro rfl
    simp [typeNames, exampleQuery, task] at hname
  exact ⟨rfl, rfl, hagrees, (evaluate_eq_of_agreesOn hagrees).2⟩

end Query

end OrgService
