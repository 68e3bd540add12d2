import OrgService.Proofs.Query.JoinFailure
import OrgService.Proofs.Query.OrderFailure
import OrgService.Proofs.Query.SafeTests

/-!
# Queries that hang together

The link of a query says which type it starts from, and hangs from a record whose type is found by
looking up an alias. Where every link starts from the type that the link above it leads to, and is
called by a text, what is found is that type, and so no evaluation complains of a link in the wrong
place.
-/

namespace OrgService

/-- A link starts from the type that it hangs from, leads to a type and is called by a text. -/
structure Link.HangsFrom (l : Link) (attachedTo : Json) : Prop where
  source : l.fromEntity = attachedTo
  target : l.toEntity.IsText
  called : l.CalledByText

/-- The links of a forest hang from a type, and those below them from the types that they lead
to. -/
def Link.AllHang (attachedTo : Json) (ls : List Link) : Prop :=
  ∀ e ∈ attachmentsEach attachedTo ls, e.2.HangsFrom e.1

/-- All links of a query, at every depth, hang from the types that they start from. -/
structure Query.HangsTogether (q : Query) : Prop where
  base : q.entityName.IsText
  links : Link.AllHang q.entityName q.links

/-- A fault that complains of a link in the wrong place. -/
def Fault.IsMisplaced : Fault → Prop
  | .query (.misplacedLink _ _ _) => True
  | _ => False

theorem Fault.isMisplaced_iff {fault : Fault} :
    fault.IsMisplaced ↔ ∃ a b c, fault = .query (.misplacedLink a b c) := by
  constructor
  · intro h
    unfold IsMisplaced at h
    split at h
    · exact ⟨_, _, _, rfl⟩
    · exact h.elim
  · rintro ⟨a, b, c, rfl⟩
    exact trivial

abbrev NeverMisplaces {α : Type} (x : Except Fault α) : Prop := FailsWith (¬ ·.IsMisplaced) x

theorem NeverMisplaces.breakdown {α : Type} {cause : Breakdown} :
    NeverMisplaces (.error (.breakdown cause) : Except Fault α) :=
  .error id

/-! ## Tests -/

theorem Condition.holds_neverMisplaces (r : Record) (c : Condition) :
    NeverMisplaces (c.holds r) := by
  unfold holds
  split
  · exact .breakdown
  · split
    · intro fault h hmisplaced
      obtain ⟨a, b, c, rfl⟩ := Fault.isMisplaced_iff.mp hmisplaced
      obtain ⟨left, right, hfault⟩ := exists_incomparable_of_holdsOn h
      contradiction
    · exact .ok _

theorem Filter.holds_neverMisplaces (r : Record) (f : Filter) : NeverMisplaces (f.holds r) := by
  intro fault h
  obtain ⟨c, -, hfault⟩ := exists_condition_of_holds_eq_error h
  exact c.holds_neverMisplaces r fault hfault

/-! ## Joins -/

theorem KeyedRecord.read?_neverMisplaces (r : Record) (attr : Json) :
    NeverMisplaces (read? r attr) := by
  unfold read?
  split
  · exact .breakdown
  · exact .ok _

theorem KeyedRecord.checkKey_neverMisplaces (k : KeyedRecord) : NeverMisplaces k.checkKey := by
  unfold checkKey
  split
  · split
    · exact .breakdown
    · exact .ok ()
  · exact .ok ()

theorem Query.scan_neverMisplaces (s : Snapshot) (name : Json) : NeverMisplaces (scan s name) := by
  unfold scan typeName?
  split
  · exact .ok _
  · split
    · exact .ok _
    · exact .breakdown

namespace PlannedLink

theorem candidate?_neverMisplaces (p : PlannedLink) (r : Record) :
    NeverMisplaces (p.candidate? r) := by
  refine (KeyedRecord.read?_neverMisplaces r _).bind fun o _ ↦ ?_
  cases o with
  | none => exact .ok none
  | some k =>
      refine (Filter.holds_neverMisplaces r _).bind fun passed _ ↦ ?_
      cases passed with
      | false => exact .ok none
      | true => exact k.checkKey_neverMisplaces.bind fun _ _ ↦ .ok _

theorem candidatesOf_neverMisplaces (p : PlannedLink) (rs : List Record) :
    NeverMisplaces (p.candidatesOf rs) := by
  induction rs with
  | nil => exact .ok []
  | cons r rs ih => exact (p.candidate?_neverMisplaces r).bind fun _ _ ↦ ih.bind fun _ _ ↦ .ok _

theorem allCandidates_neverMisplaces (s : Snapshot) (plans : List PlannedLink) :
    NeverMisplaces (allCandidates s plans) := by
  induction plans with
  | nil => exact .ok []
  | cons p ps ih =>
      refine ih.bind fun _ _ ↦ FailsWith.bind ?_ fun _ _ ↦ .ok _
      exact (Query.scan_neverMisplaces s _).bind fun rs _ ↦ p.candidatesOf_neverMisplaces rs

theorem matchesFor_neverMisplaces (p : PlannedLink) (cs : List KeyedRecord) (r : Record) :
    NeverMisplaces (p.matchesFor cs r) := by
  refine (KeyedRecord.read?_neverMisplaces r _).bind fun o _ ↦ ?_
  cases o with
  | none => exact .ok []
  | some k => exact k.checkKey_neverMisplaces.bind fun _ _ ↦ .ok _

end PlannedLink

theorem JoinedRow.expand_neverMisplaces (links : List (PlannedLink × List KeyedRecord))
    (row : JoinedRow) : NeverMisplaces (expand links row).result := by
  induction links generalizing row with
  | nil => exact .ok [row]
  | cons e rest ih =>
      obtain ⟨p, cs⟩ := e
      rw [expand]
      split
      · exact ih _
      · rename_i r _
        simp only [Traced.result_bind, Traced.result_silent]
        refine (p.matchesFor_neverMisplaces cs r).bind fun found _ ↦ ?_
        split
        · split
          · exact ih _
          · exact .ok []
        · exact .flatMap fun m _ ↦ ih _

theorem Query.rows_neverMisplaces (q : Query) (s : Snapshot) (plans : List PlannedLink) :
    NeverMisplaces (q.rows s plans).result := by
  simp only [rows, Traced.result_bind, Traced.result_silent]
  refine (PlannedLink.allCandidates_neverMisplaces s plans).bind fun links _ ↦ ?_
  refine (scan_neverMisplaces s _).bind fun base _ ↦ .flatMap fun r _ ↦ ?_
  simp only [Traced.result_bind, Traced.result_silent]
  refine (q.criteria.holds_neverMisplaces r).bind fun passed _ ↦ ?_
  cases passed with
  | false => exact .ok []
  | true => exact JoinedRow.expand_neverMisplaces links ⟨r, []⟩

/-! ## Orders -/

theorem JoinedRow.sortBy_neverMisplaces (order : Order) (rows : List JoinedRow) :
    NeverMisplaces (sortBy order rows) := by
  simp only [sortBy]
  split
  · refine .mapError fun e _ ↦ ?_
    cases e <;> exact id
  · split
    · exact .ok _
    · exact .error id

theorem JoinedRow.sortAll_neverMisplaces (orders : List Order) (rows : List JoinedRow) :
    NeverMisplaces (sortAll orders rows) := by
  induction orders with
  | nil => exact .ok rows
  | cons order orders ih =>
      rw [sortAll_cons]
      exact ih.bind fun once _ ↦ sortBy_neverMisplaces order once

/-! ## Checks -/

theorem Json.checkName_neverMisplaces (name : Json) : NeverMisplaces name.checkName := by
  unfold checkName
  split
  · exact .ok ()
  · exact .breakdown

theorem Json.sortNames_neverMisplaces (names : List Json) : NeverMisplaces (sortNames names) := by
  unfold sortNames
  split
  · exact .ok []
  · split
    · exact .breakdown
    · exact .ok _

theorem Filter.check_neverMisplaces (f : Filter) : NeverMisplaces (f.check.mapError .query) := by
  rw [check_eq, mapError_forM]
  refine .forM fun c _ ↦ .mapError fun fault h ↦ ?_
  unfold Condition.check at h
  split at h
  · contradiction
  · obtain rfl := Except.error.inj h
    exact id

namespace Query

variable {s : Snapshot}

theorem requireType_neverMisplaces (name : Json) : NeverMisplaces (requireType s name) := by
  unfold requireType
  split
  · split
    · exact .ok ()
    · exact .error id
  · exact name.checkName_neverMisplaces.bind fun _ _ ↦ .error id

theorem requireAttributes_neverMisplaces (entityName : Json) (attrs : List Json) :
    NeverMisplaces (requireAttributes s entityName attrs) := by
  refine (FailsWith.forM fun a _ ↦ a.checkName_neverMisplaces).bind fun _ _ ↦ ?_
  refine (Json.sortNames_neverMisplaces attrs).bind fun sorted _ ↦ ?_
  split
  · exact .ok ()
  · exact .error id

/-- The only check that can complain is whether the link starts where it hangs. -/
theorem checkLink_neverMisplaces {p : PlannedLink} {attachedTo : Json}
    (hsource : p.link.fromEntity.same attachedTo = true) :
    NeverMisplaces (checkLink s p attachedTo) := by
  rw [checkLink_eq]
  refine FailsWith.bind ?_ fun _ _ ↦ (requireType_neverMisplaces _).bind fun _ _ ↦
    (Filter.check_neverMisplaces _).bind fun _ _ ↦
    (requireAttributes_neverMisplaces _ _).bind fun _ _ ↦
    (requireAttributes_neverMisplaces _ _).bind fun _ _ ↦ Json.checkName_neverMisplaces _
  rw [requireSource, if_pos hsource]
  exact .ok ()

theorem requireLimit_neverMisplaces (q : Query) : NeverMisplaces q.requireLimit := by
  unfold requireLimit
  split
  · split
    · exact .error id
    · exact .ok ()
  · exact .ok ()

theorem planLinks_neverMisplaces (q : Query) : NeverMisplaces (q.planLinks.mapError .query) := by
  refine .mapError fun fault h ↦ ?_
  rw [planLinks, Link.planEach_eq] at h
  obtain ⟨_, p, _, -, -, -, rfl⟩ := Link.exists_of_enlist_eq_error h
  exact id

/-! ## Queries -/

variable {q : Query}

theorem HangsTogether.hangsFrom (hq : q.HangsTogether) :
    ∀ l ∈ Link.preorderEach q.links, ∃ type, l.HangsFrom type := by
  intro l hl
  rw [← map_snd_attachmentsEach q.entityName] at hl
  obtain ⟨e, he, rfl⟩ := List.mem_map.mp hl
  exact ⟨e.1, hq.links e he⟩

/-- Looking up the alias that a link hangs from finds the type that it starts from. -/
theorem HangsTogether.checkLinks_neverMisplaces (hq : q.HangsTogether)
    (hnodup : (Link.aliases 0 q.links).Nodup) :
    NeverMisplaces (checkLinks s [(none, q.entityName)] q.plans) := by
  have hlinks := hq.hangsFrom
  have hcalled : ∀ l ∈ Link.preorderEach q.links, l.CalledByText :=
    fun l hl ↦ (hlinks l hl).elim fun _ h ↦ h.called
  have htargets : ∀ l ∈ Link.preorderEach q.links, l.toEntity.IsText :=
    fun l hl ↦ (hlinks l hl).elim fun _ h ↦ h.target
  have hfound : (lookUpSources [(none, q.entityName)] q.plans).map (fun e ↦ (e.1, e.2.link)) = _ :=
    lookUpSources_numberedEach rfl (by simp) hcalled hnodup (by simp)
  rw [checkLinks_eq_forM]
  refine .forM fun e he ↦ ?_
  -- The link is checked against the type that its source alias was found with.
  obtain ⟨type, htype, hmem⟩ := exists_attachment_of_mem hfound he
  have htext := Link.isText_of_mem_attachmentsEach hq.base htargets _ hmem
  rw [htype, Option.getD_some]
  apply checkLink_neverMisplaces
  rw [(hq.links _ hmem).source]
  exact (htext.same_iff htext).mpr rfl

theorem HangsTogether.validate_neverMisplaces (hq : q.HangsTogether)
    (hnodup : (Link.aliases 0 q.links).Nodup) : NeverMisplaces (q.validate s q.plans) := by
  rw [validate_eq]
  exact q.requireLimit_neverMisplaces.bind fun _ _ ↦ (requireType_neverMisplaces _).bind fun _ _ ↦
    (Filter.check_neverMisplaces _).bind fun _ _ ↦
    (requireAttributes_neverMisplaces _ _).bind fun _ _ ↦ hq.checkLinks_neverMisplaces hnodup

/-- A query that hangs together is never told that one of its links is in the wrong place. -/
theorem HangsTogether.evaluate_neverMisplaces (hq : q.HangsTogether) (s : Snapshot)
    (policy : NullPolicy) : NeverMisplaces (q.evaluate s policy).result := by
  simp only [evaluate, orderedRows, Traced.result_bind, Traced.result_silent]
  refine q.planLinks_neverMisplaces.bind fun plans hplans ↦ ?_
  obtain ⟨rfl, hdistinct⟩ := planLinks_eq_ok_iff.mp (mapError_eq_ok_iff.mp hplans)
  have hnodup : (Link.aliases 0 q.links).Nodup := by
    rw [← Link.map_aliasName_numberedEach none]
    refine (Link.aliasesDistinct_iff fun p hp ↦ ?_).mp hdistinct
    exact Link.isText_of_mem_numberedEach
      (fun l hl ↦ (hq.hangsFrom l hl).elim fun _ h ↦ h.called) hp
  refine (hq.validate_neverMisplaces hnodup).bind fun _ _ ↦ FailsWith.bind ?_ fun _ _ ↦ .ok _
  refine (q.rows_neverMisplaces s _).bind fun rows _ ↦ ?_
  exact (JoinedRow.sortAll_neverMisplaces q.orders rows).bind fun _ _ ↦ .ok _

end Query

end OrgService
