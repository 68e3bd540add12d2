import Mathlib.Data.List.Pairwise
import OrgService.Proofs.Query.Alias
import OrgService.Proofs.Query.JoinFailure

/-!
# Precedence of faults

Each link is a stage that looks at the records of its target type before it asks the stage before
it for a row. Hence the tests of the last link come first and those of the query itself come last,
whether or not a row ever reaches a link. Away from NaN these tests are all that can fail while
rows are produced, and the first one to fail decides how.
-/

namespace OrgService

/-- The records of the target type with a join key; no others are tested. -/
def Link.keyed (l : Link) (s : Snapshot) : List Record :=
  (s.recordsOf l.toEntity).filter fun r ↦ (r.joinKey? l.toAttr).isSome

namespace Query

/-- The tests of a query in the order in which they are made. -/
def tests (q : Query) (s : Snapshot) : List (Filter × Record) :=
  (Link.preorderEach q.links).reverse.flatMap (fun l ↦ (l.keyed s).map fun r ↦ (l.criteria, r)) ++
    (s.recordsOf q.entityName).map fun r ↦ (q.criteria, r)

/-- The fault of the first test that fails, if one does. -/
def firstFault? (q : Query) (s : Snapshot) : Option Fault :=
  (q.tests s).findSome? fun t ↦ fault? (t.1.holds t.2)

/-- No value that a link joins by is a NaN, neither in the records that it may start from nor in
those of its target type. -/
structure JoinsNoNaN (q : Query) (s : Snapshot) : Prop where
  source : ∀ e ∈ Link.attachmentsEach q.entityName q.links, ∀ r ∈ s.recordsOf e.1,
    ∀ k ∈ r.joinKey? e.2.fromAttr, k.isNaN = false
  target : ∀ l ∈ Link.preorderEach q.links, l.NoNaNKey s

end Query

/-! ## Stages -/

theorem KeyedRecord.checkKey_of_not_isNaN {k : KeyedRecord} (h : k.key.isNaN = false) :
    k.checkKey = .ok () := by
  obtain ⟨key, attr, r⟩ := k
  cases key with
  | number n =>
      apply if_neg
      intro hsignaling
      have hnan := (Comparable.isNaN_and_isDecimal_of_isSignaling hsignaling).1
      exact Bool.false_ne_true (h.symm.trans hnan)
  | _ => rfl

namespace PlannedLink

variable {p : PlannedLink} {s : Snapshot}

theorem fault?_candidate?_of_key (hto : p.link.toAttr.isNameable = true) {r : Record}
    {k : Comparable} (hkey : r.joinKey? p.link.toAttr = some k) (hnan : k.isNaN = false) :
    fault? (p.candidate? r) = fault? (p.link.criteria.holds r) := by
  have hchecked : KeyedRecord.checkKey ⟨k, p.link.toAttr, r⟩ = .ok () :=
    KeyedRecord.checkKey_of_not_isNaN hnan
  rw [candidate?_of_key hto hkey, hchecked]
  cases p.link.criteria.holds r with
  | error fault => rfl
  | ok passed => cases passed <;> rfl

theorem fault?_candidatesOf (hto : p.link.toAttr.isNameable = true) {rs : List Record}
    (hnan : ∀ r ∈ rs, ∀ k ∈ r.joinKey? p.link.toAttr, k.isNaN = false) :
    fault? (p.candidatesOf rs) = (rs.filter fun r ↦ (r.joinKey? p.link.toAttr).isSome).findSome?
      fun r ↦ fault? (p.link.criteria.holds r) := by
  induction rs with
  | nil => rfl
  | cons r rs ih =>
      obtain ⟨hr, hrs⟩ := List.forall_mem_cons.mp hnan
      have hlater : ∀ c, p.candidate? r = .ok c →
          fault? (p.candidatesOf rs >>= fun cs ↦ .ok (c.toList ++ cs)) =
            fault? (p.candidatesOf rs) := fun c _ ↦ fault?_bind_ok _ _
      rw [candidatesOf, fault?_bind hlater, ih hrs]
      cases hkey : r.joinKey? p.link.toAttr with
      | none =>
          rw [candidate?_of_no_key hto hkey, List.filter_cons_of_neg (by simp [hkey])]
          rfl
      | some k =>
          rw [fault?_candidate?_of_key hto hkey (hr k hkey),
            List.filter_cons_of_pos (by simp [hkey]), findSome?_cons_or]

/-- A stage fails at the first record with a join key on which the criteria of its link fail. -/
theorem fault?_candidates (hp : p.IsNameable) (hnan : p.link.NoNaNKey s) :
    fault? (p.candidates s) =
      (p.link.keyed s).findSome? fun r ↦ fault? (p.link.criteria.holds r) := by
  rw [candidates, Query.scan_of_isNameable hp.toEntity]
  exact fault?_candidatesOf hp.toAttr hnan

/-- The last stage that fails is the one that is heard of. -/
theorem fault?_allCandidates (s : Snapshot) (plans : List PlannedLink) :
    fault? (allCandidates s plans) = plans.reverse.findSome? fun p ↦ fault? (p.candidates s) := by
  induction plans with
  | nil => rfl
  | cons p ps ih =>
      rw [allCandidates, List.reverse_cons, List.findSome?_append, ← ih, List.findSome?_singleton]
      apply fault?_bind
      intro rest _
      apply fault?_bind_ok

theorem exists_matchesFor_eq_ok (hp : p.IsNameable) {r : Record}
    (hnan : ∀ k ∈ r.joinKey? p.link.fromAttr, k.isNaN = false) (cs : List KeyedRecord) :
    ∃ found, p.matchesFor cs r = .ok found := by
  rw [matchesFor, KeyedRecord.read?_of_isNameable hp.fromAttr]
  cases hkey : r.joinKey? p.link.fromAttr with
  | none => exact ⟨[], rfl⟩
  | some k =>
      have hchecked : KeyedRecord.checkKey ⟨k, p.link.fromAttr, r⟩ = .ok () :=
        KeyedRecord.checkKey_of_not_isNaN (hnan k hkey)
      simp only [Option.map_some, bind, Except.bind, hchecked]
      exact ⟨_, rfl⟩

end PlannedLink

/-! ## Rows -/

theorem Link.mem_attachmentsEach_of_mem {ls : List Link} {l : Link} (hl : l ∈ ls)
    (attachedTo : Json) : (attachedTo, l) ∈ attachmentsEach attachedTo ls := by
  induction ls with
  | nil => contradiction
  | cons l' ls ih =>
      rw [attachmentsEach_cons]
      rcases List.mem_cons.mp hl with rfl | hl
      · exact List.mem_cons_self
      · exact .tail _ (List.mem_append_right _ (ih hl))

theorem Link.mem_attachmentsEach_of_above {ls : List Link} {above l : Link}
    (habove : above ∈ preorderEach ls) (hl : l ∈ above.links) (attachedTo : Json) :
    (above.toEntity, l) ∈ attachmentsEach attachedTo ls := by
  induction ls using forest_induction generalizing attachedTo with
  | nil => contradiction
  | cons l' ls below beside =>
      rw [preorderEach_cons] at habove
      rw [attachmentsEach_cons]
      apply List.mem_cons_of_mem
      rcases List.mem_cons.mp habove with rfl | habove
      · exact List.mem_append_left _ (mem_attachmentsEach_of_mem hl _)
      · rcases List.mem_append.mp habove with habove | habove
        · exact List.mem_append_left _ (below habove _)
        · exact List.mem_append_right _ (beside habove _)

namespace Query

variable {q : Query} {s : Snapshot} {plans : List PlannedLink}

theorem JoinsNoNaN.of_starts (h : q.JoinsNoNaN s) {l : Link} {r : Record} (hr : q.Starts s l r) :
    ∀ k ∈ r.joinKey? l.fromAttr, k.isNaN = false := by
  cases hr with
  | base hl hr => exact h.source _ (Link.mem_attachmentsEach_of_mem hl _) r hr.1
  | below habove hl hr => exact h.source _ (Link.mem_attachmentsEach_of_above habove hl _) r hr.1

theorem aliasesIdentify_of_validate (hplans : q.planLinks = .ok plans)
    (hvalidated : q.validate s plans = .ok ()) : q.AliasesIdentify := by
  obtain ⟨rfl, hdistinct⟩ := planLinks_eq_ok_iff.mp hplans
  have hname := fun p hp ↦ ((isNameable_of_validate hvalidated).2 p hp).aliasName
  -- Distinct aliases differ from left to right; names that do so differ in either direction.
  let Apart (p p' : PlannedLink) : Prop :=
    p.aliasName.same p'.aliasName = false ∧ p'.aliasName.same p.aliasName = false
  have : Std.Symm Apart := ⟨fun _ _ h ↦ h.symm⟩
  have hapart : q.plans.Pairwise Apart := by
    refine hdistinct.imp_of_mem fun hp hp' h ↦ ⟨h, ?_⟩
    rwa [Json.same_comm (hname _ hp') (hname _ hp)]
  intro p hp p' hp' hsame
  by_contra hne
  exact Bool.false_ne_true ((hapart.forall hp hp' hne).1.symm.trans hsame)

/-- Past the tests nothing fails: every row can be expanded. -/
theorem fault?_expand (hplans : q.planLinks = .ok plans)
    (hvalidated : q.validate s plans = .ok ()) (hkeys : q.JoinsNoNaN s)
    {links : List (PlannedLink × List KeyedRecord)}
    (hlinks : PlannedLink.allCandidates s plans = .ok links) {row : JoinedRow}
    (hrow : row.Placed q s) : fault? (JoinedRow.expand links row).result = none := by
  obtain ⟨hmap, hcandidates⟩ := PlannedLink.allCandidates_eq_ok hlinks
  have hmem : ∀ e ∈ links, e.1 ∈ plans := fun e he ↦ hmap ▸ List.mem_map_of_mem he
  have hplanned : plans = q.plans := (planLinks_eq_ok_iff.mp hplans).1
  apply Option.eq_none_iff_forall_ne_some.mpr
  intro fault hfault
  obtain ⟨e, he, r, hstarts, hfails⟩ := JoinedRow.exists_of_expand_eq_error
    (aliasesIdentify_of_validate hplans hvalidated)
    (fun e he ↦ ⟨hplanned ▸ hmem e he, hcandidates e he⟩) hrow (fault?_eq_some_iff.mp hfault)
  have hnameable := (isNameable_of_validate hvalidated).2 e.1 (hmem e he)
  obtain ⟨found, hfound⟩ :=
    PlannedLink.exists_matchesFor_eq_ok hnameable (hkeys.of_starts hstarts) e.2
  exact absurd (hfound.symm.trans hfails) (by simp)

theorem fault?_links (hplans : q.planLinks = .ok plans) (hvalidated : q.validate s plans = .ok ())
    (hkeys : q.JoinsNoNaN s) :
    fault? (PlannedLink.allCandidates s plans) =
      ((Link.preorderEach q.links).reverse.flatMap fun l ↦
        (l.keyed s).map fun r ↦ (l.criteria, r)).findSome? fun t ↦ fault? (t.1.holds t.2) := by
  obtain ⟨rfl, -⟩ := planLinks_eq_ok_iff.mp hplans
  have hstage : ∀ p ∈ (Link.numberedEach none 0 q.links).reverse, fault? (p.candidates s) =
      (p.link.keyed s).findSome? fun r ↦ fault? (p.link.criteria.holds r) := by
    intro p hp
    have hp := List.mem_reverse.mp hp
    apply PlannedLink.fault?_candidates ((isNameable_of_validate hvalidated).2 p hp)
    exact hkeys.target _ (Link.link_mem_of_mem_numberedEach hp)
  rw [PlannedLink.fault?_allCandidates, findSome?_congr hstage, findSome?_flatMap,
    ← Link.map_link_numberedEach none 0, ← List.map_reverse, List.findSome?_map]
  simp only [Function.comp_def, List.findSome?_map]

theorem fault?_rows (hplans : q.planLinks = .ok plans) (hvalidated : q.validate s plans = .ok ())
    (hkeys : q.JoinsNoNaN s) : fault? (q.rows s plans).result = q.firstFault? s := by
  have hbase : Query.scan s q.entityName = .ok (s.recordsOf q.entityName) :=
    scan_of_isNameable (isNameable_of_validate hvalidated).1
  simp only [rows, Traced.result_bind, Traced.result_silent, hbase]
  rw [firstFault?, tests, List.findSome?_append, ← fault?_links hplans hvalidated hkeys]
  apply fault?_bind
  intro links hlinks
  rw [List.findSome?_map]
  apply (Traced.fault?_flatMap _ _).trans
  apply findSome?_congr
  intro r hr
  simp only [Traced.result_bind, Traced.result_silent, Function.comp_apply]
  have hexpanded : ∀ passed, q.criteria.holds r = .ok passed → fault?
      (if passed then JoinedRow.expand links ⟨r, []⟩ else pure []).result = none := by
    intro passed hpassed
    cases passed with
    | false => rfl
    | true => exact fault?_expand hplans hvalidated hkeys hlinks (.of_base ⟨hr, hpassed⟩)
  rw [fault?_bind hexpanded, Option.or_none]

theorem validate_of_limit (hvalidated : q.validate s plans = .ok ()) {topCount : Option Int}
    (hlimit : ∀ n, topCount = some n → 0 ≤ n) :
    { q with topCount := topCount }.validate s plans = .ok () := by
  rw [validate_eq] at hvalidated ⊢
  obtain ⟨_, -, hrest⟩ := bind_eq_ok_iff.mp hvalidated
  rw [(requireLimit_decides { q with topCount := topCount }).ok_iff.mpr hlimit]
  exact hrest

theorem evaluate_of_rows_eq_error (hplans : q.planLinks = .ok plans)
    (hvalidated : q.validate s plans = .ok ()) {fault : Fault}
    (hrows : (q.rows s plans).result = .error fault) (policy : NullPolicy) :
    (q.evaluate s policy).result = .error fault := by
  simp only [evaluate, orderedRows, hplans, mapError_ok, Traced.silent_ok_bind,
    hvalidated, Traced.result_bind, hrows]
  rfl

/-- Producing the rows of a validated query fails as its first failing test does, if one fails;
whatever its limit, the query then has no other answer. -/
theorem first_failing_test_decides (hplans : q.planLinks = .ok plans)
    (hvalidated : q.validate s plans = .ok ()) (hkeys : q.JoinsNoNaN s) {topCount : Option Int}
    (hlimit : ∀ n, topCount = some n → 0 ≤ n) :
    fault? ({ q with topCount := topCount }.rows s plans).result = q.firstFault? s ∧
      ∀ fault, q.firstFault? s = some fault → ∀ policy,
        ({ q with topCount := topCount }.evaluate s policy).result = .error fault := by
  have hrows := fault?_rows hplans hvalidated hkeys
  refine ⟨hrows, fun fault hfault policy ↦ ?_⟩
  have hplanned : { q with topCount := topCount }.planLinks = .ok plans := hplans
  apply evaluate_of_rows_eq_error hplanned (validate_of_limit hvalidated hlimit)
  exact fault?_eq_some_iff.mp (hrows.trans hfault)

/-- Both links compare what has no order, the inner one names and the outer one references; no
account has the name that the query asks for. -/
def undecidableQuery : Query :=
  let owner : Link := ⟨.str "contact", .str "account", .str "parent", .str "accountid", .inner,
    .str "owner", .every, ⟨.and, [⟨.str "name", .lessThan, [.number (.integer 3)]⟩], []⟩, []⟩
  let contact : Link := ⟨.str "account", .str "contact", .str "accountid", .str "parent", .inner,
    .null, .none, ⟨.or, [⟨.str "parent", .greaterThan, [.number (.integer 3)]⟩], []⟩, [owner]⟩
  ⟨.str "account", .every, ⟨.and, [⟨.str "name", .equal, [.text "Nobody"]⟩], []⟩, [contact], [],
    none⟩

theorem first_failing_test_decides_example :
    ∃ plans, undecidableQuery.planLinks = .ok plans ∧
      undecidableQuery.validate exampleContents plans = .ok () ∧
      undecidableQuery.JoinsNoNaN exampleContents ∧
      ∀ policy, ({ undecidableQuery with topCount := some 0 }.evaluate exampleContents
        policy).result = .error (.query (.invalidCondition (.str "name") "lt"
          (.incomparable "str" "int"))) := by
  have hplans : undecidableQuery.planLinks =
      .ok (Link.numberedEach none 0 undecidableQuery.links) := rfl
  have hvalidated : undecidableQuery.validate exampleContents
      (Link.numberedEach none 0 undecidableQuery.links) = .ok () := by cbv
  have hkeys : undecidableQuery.JoinsNoNaN exampleContents := by
    constructor
    · decide +kernel
    · unfold Link.NoNaNKey
      decide +kernel
  have hfault : undecidableQuery.firstFault? exampleContents = some (.query
      (.invalidCondition (.str "name") "lt" (.incomparable "str" "int"))) := rfl
  have hlimit : ∀ n, some (0 : Int) = some n → 0 ≤ n := by
    intro n hn
    exact (Option.some.inj hn).le
  have hdecides := first_failing_test_decides hplans hvalidated hkeys hlimit
  exact ⟨_, hplans, hvalidated, hkeys, hdecides.2 _ hfault⟩

end Query

end OrgService
