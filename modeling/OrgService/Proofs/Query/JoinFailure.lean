import OrgService.Proofs.Query.Clash
import OrgService.Proofs.Query.Expansion
import OrgService.Proofs.Query.Validity

/-!
# Failures of joins

A join fails because criteria cannot be decided on a record or because a signaling NaN is met as a
join key. On the target side every record is tested. On the source side only the records are that
rows have bound so far; whatever a link of a valid query starts from was found by the link above
it, or is a base record.
-/

namespace OrgService

def Comparable.IsSignaling : Comparable → Prop
  | .number n => n.isSignaling = true
  | _ => False

/-- A record of the target type has a join key, but its criteria cannot be decided, or it passes
them and its key is a signaling NaN. -/
inductive Link.Clashes (l : Link) (r : Record) : Breakdown → Prop
  | criteria {k : Comparable} (hkey : r.joinKey? l.toAttr = some k) (h : l.criteria.Clashes r) :
    Clashes l r .nanComparison
  | key {k : Comparable} (hkey : r.joinKey? l.toAttr = some k)
    (hpass : l.criteria.holds r = .ok true) (h : k.IsSignaling) : Clashes l r .nanKey

namespace KeyedRecord

theorem read?_of_isNameable {attr : Json} (hattr : attr.isNameable = true) (r : Record) :
    read? r attr = .ok ((r.joinKey? attr).map fun key ↦ ⟨key, attr, r⟩) := by
  cases attr <;>
    simp_all [read?, Condition.lookup, Record.joinKey?, Json.isNameable, Value.joinKey]

theorem checkKey_failsOnlyBy (k : KeyedRecord) :
    FailsOnlyBy (fun cause ↦ cause = .nanKey ∧ k.key.IsSignaling) k.checkKey := by
  obtain ⟨key, attr, r⟩ := k
  cases key with
  | number n =>
      simp only [checkKey]
      split
      · rename_i h
        exact .breakdown ⟨rfl, h⟩
      · exact .ok ()
  | _ => exact .ok ()

theorem not_isSignaling_of_checkKey {k : KeyedRecord} (h : k.checkKey = .ok ()) :
    ¬k.key.IsSignaling := by
  intro hsignaling
  obtain ⟨key, attr, r⟩ := k
  cases key with
  | number n =>
      have herror : checkKey ⟨.number n, attr, r⟩ = .error (.breakdown .nanKey) :=
        if_pos hsignaling
      rw [herror] at h
      contradiction
  | _ => exact hsignaling

end KeyedRecord

theorem Query.scan_of_isNameable {s : Snapshot} {name : Json} (hname : name.isNameable = true) :
    Query.scan s name = .ok (s.recordsOf name) := by
  cases name <;>
    simp_all [scan, typeName?, Json.isNameable, Snapshot.recordsOf, Except.map]

namespace PlannedLink

variable {p : PlannedLink}

theorem candidate?_of_no_key (hto : p.link.toAttr.isNameable = true) {r : Record}
    (hkey : r.joinKey? p.link.toAttr = none) : p.candidate? r = .ok none := by
  rw [candidate?, KeyedRecord.read?_of_isNameable hto, hkey]
  rfl

theorem candidate?_of_key (hto : p.link.toAttr.isNameable = true) {r : Record} {k : Comparable}
    (hkey : r.joinKey? p.link.toAttr = some k) :
    p.candidate? r = (do
      if ← p.link.criteria.holds r then
        KeyedRecord.checkKey ⟨k, p.link.toAttr, r⟩
        .ok (some ⟨k, p.link.toAttr, r⟩)
      else .ok none) := by
  rw [candidate?, KeyedRecord.read?_of_isNameable hto, hkey]
  rfl

variable (hlink : p.link.NamedByTexts) (hcriteria : p.link.criteria.WellFormed)

include hlink hcriteria

theorem candidate?_failsOnlyBy (r : Record) : FailsOnlyBy (p.link.Clashes r) (p.candidate? r) := by
  cases hkey : r.joinKey? p.link.toAttr with
  | none => exact candidate?_of_no_key hlink.toAttr.isNameable hkey ▸ .ok none
  | some k =>
      rw [candidate?_of_key hlink.toAttr.isNameable hkey]
      refine FailsOnlyBy.bind ?_ fun passed hpassed ↦ ?_
      · refine (Filter.failsOnlyBy_clashes hcriteria hlink.criteria).mono ?_
        rintro cause ⟨rfl, hclash⟩
        exact .criteria hkey hclash
      · cases passed with
        | false => exact .ok none
        | true =>
            refine FailsOnlyBy.bind ?_ fun _ _ ↦ .ok _
            refine (KeyedRecord.checkKey_failsOnlyBy _).mono ?_
            rintro cause ⟨rfl, hsignaling⟩
            exact .key hkey hpassed hsignaling

theorem not_clashes_of_candidate? {r : Record} {c : Option KeyedRecord}
    (h : p.candidate? r = .ok c) (cause : Breakdown) : ¬p.link.Clashes r cause := by
  intro hclash
  cases hclash with
  | criteria hkey hclash =>
      rw [candidate?_of_key hlink.toAttr.isNameable hkey] at h
      obtain ⟨passed, hpassed, -⟩ := bind_eq_ok_iff.mp h
      exact Filter.not_clashes_of_holds_eq_ok hcriteria hlink.criteria hpassed hclash
  | key hkey hpass hsignaling =>
      rw [candidate?_of_key hlink.toAttr.isNameable hkey] at h
      obtain ⟨passed, hpassed, h⟩ := bind_eq_ok_iff.mp h
      obtain rfl := Except.ok.inj (hpass.symm.trans hpassed)
      obtain ⟨_, hchecked, -⟩ := bind_eq_ok_iff.mp h
      exact KeyedRecord.not_isSignaling_of_checkKey hchecked hsignaling

theorem candidatesOf_failsOnlyBy (rs : List Record) :
    FailsOnlyBy (fun cause ↦ ∃ r ∈ rs, p.link.Clashes r cause) (p.candidatesOf rs) := by
  induction rs with
  | nil => exact .ok []
  | cons r rs ih =>
      rw [candidatesOf]
      refine FailsOnlyBy.bind ?_ fun c _ ↦ FailsOnlyBy.bind ?_ fun cs _ ↦ .ok _
      · exact (candidate?_failsOnlyBy hlink hcriteria r).mono
          fun cause hclash ↦ ⟨r, List.mem_cons_self, hclash⟩
      · refine ih.mono ?_
        rintro cause ⟨r', hr', hclash⟩
        exact ⟨r', .tail _ hr', hclash⟩

theorem not_clashes_of_candidatesOf {rs : List Record} {cs : List KeyedRecord}
    (h : p.candidatesOf rs = .ok cs) (cause : Breakdown) : ∀ r ∈ rs, ¬p.link.Clashes r cause := by
  induction rs generalizing cs with
  | nil => simp
  | cons r rs ih =>
      rw [candidatesOf] at h
      obtain ⟨c, hc, h⟩ := bind_eq_ok_iff.mp h
      obtain ⟨cs', hcs', -⟩ := bind_eq_ok_iff.mp h
      exact List.forall_mem_cons.mpr
        ⟨not_clashes_of_candidate? hlink hcriteria hc cause, ih hcs'⟩

theorem candidates_failsOnlyBy (s : Snapshot) :
    FailsOnlyBy (fun cause ↦ ∃ r ∈ s.recordsOf p.link.toEntity, p.link.Clashes r cause)
      (p.candidates s) := by
  rw [candidates, Query.scan_of_isNameable hlink.toEntity.isNameable]
  exact candidatesOf_failsOnlyBy hlink hcriteria _

theorem not_clashes_of_candidates {s : Snapshot} {cs : List KeyedRecord}
    (h : p.candidates s = .ok cs) (cause : Breakdown) :
    ∀ r ∈ s.recordsOf p.link.toEntity, ¬p.link.Clashes r cause := by
  rw [candidates, Query.scan_of_isNameable hlink.toEntity.isNameable] at h
  exact not_clashes_of_candidatesOf hlink hcriteria h cause

end PlannedLink

/-! ## What links find -/

def Link.Finds (s : Snapshot) (l : Link) (r : Record) : Prop :=
  r ∈ s.recordsOf l.toEntity ∧ l.criteria.holds r = .ok true

namespace PlannedLink

variable {p : PlannedLink} {s : Snapshot}

theorem of_candidate?_eq_some {r : Record} {k : KeyedRecord} (h : p.candidate? r = .ok (some k)) :
    k.record = r ∧ p.link.criteria.holds r = .ok true := by
  obtain ⟨o, ho, h⟩ := bind_eq_ok_iff.mp h
  obtain rfl := KeyedRecord.read?_eq_ok ho
  cases hkey : r.joinKey? p.link.toAttr with
  | none => simp [hkey] at h
  | some key =>
      simp only [hkey, Option.map_some] at h
      obtain ⟨passed, hpassed, h⟩ := bind_eq_ok_iff.mp h
      cases passed with
      | false => simp at h
      | true =>
          obtain ⟨_, -, h⟩ := bind_eq_ok_iff.mp h
          obtain rfl := Option.some.inj (Except.ok.inj h)
          exact ⟨rfl, hpassed⟩

theorem of_mem_candidatesOf {rs : List Record} {cs : List KeyedRecord}
    (h : p.candidatesOf rs = .ok cs) :
    ∀ k ∈ cs, k.record ∈ rs ∧ p.link.criteria.holds k.record = .ok true := by
  induction rs generalizing cs with
  | nil =>
      obtain rfl := Except.ok.inj h
      simp
  | cons r rs ih =>
      obtain ⟨c, hc, h⟩ := bind_eq_ok_iff.mp h
      obtain ⟨cs', hcs', h⟩ := bind_eq_ok_iff.mp h
      obtain rfl := Except.ok.inj h
      intro k hk
      rcases List.mem_append.mp hk with hk | hk
      · obtain rfl := Option.mem_toList.mp hk
        obtain ⟨hrecord, hpass⟩ := of_candidate?_eq_some hc
        exact ⟨hrecord ▸ List.mem_cons_self, hrecord ▸ hpass⟩
      · exact ⟨.tail _ (ih hcs' k hk).1, (ih hcs' k hk).2⟩

theorem finds_of_mem_candidates {cs : List KeyedRecord} (h : p.candidates s = .ok cs) :
    ∀ k ∈ cs, p.link.Finds s k.record := by
  obtain ⟨rs, hrs, h⟩ := bind_eq_ok_iff.mp h
  obtain rfl := Query.scan_eq_ok hrs
  exact of_mem_candidatesOf h

theorem finds_of_mem_matchesFor {cs : List KeyedRecord} {source : Record} {found : List Record}
    (hcs : p.candidates s = .ok cs) (h : p.matchesFor cs source = .ok found) :
    ∀ r ∈ found, p.link.Finds s r := by
  obtain ⟨o, -, h⟩ := bind_eq_ok_iff.mp h
  cases o with
  | none =>
      obtain rfl := Except.ok.inj h
      simp
  | some k =>
      obtain ⟨_, -, h⟩ := bind_eq_ok_iff.mp h
      obtain rfl := Except.ok.inj h
      intro r hr
      obtain ⟨c, hc, rfl⟩ := List.mem_map.mp hr
      exact finds_of_mem_candidates hcs c (List.mem_filter.mp hc).1

theorem matchesFor_failsOnlyBy (hfrom : p.link.fromAttr.isNameable = true) (cs : List KeyedRecord)
    (source : Record) :
    FailsOnlyBy
      (fun cause ↦ cause = .nanKey ∧ ∃ k, source.joinKey? p.link.fromAttr = some k ∧ k.IsSignaling)
      (p.matchesFor cs source) := by
  rw [matchesFor, KeyedRecord.read?_of_isNameable hfrom]
  cases hkey : source.joinKey? p.link.fromAttr with
  | none => exact .ok []
  | some k =>
      have hchecked := KeyedRecord.checkKey_failsOnlyBy ⟨k, p.link.fromAttr, source⟩
      refine (hchecked.bind fun _ _ ↦ .ok _).mono ?_
      rintro cause ⟨rfl, hsignaling⟩
      exact ⟨rfl, k, rfl, hsignaling⟩

end PlannedLink

/-! ## Sources of links -/

theorem Link.attached_of_mem_numberedEach {ls : List Link} {source : Option Json} {n : Nat}
    {p : PlannedLink} (hp : p ∈ numberedEach source n ls) :
    (p.source = source ∧ p.link ∈ ls) ∨
      ∃ above ∈ numberedEach source n ls,
        p.source = some above.aliasName ∧ p.link ∈ above.link.links := by
  induction ls using forest_induction generalizing source n with
  | nil => simp at hp
  | cons l ls below beside =>
      rw [numberedEach_cons] at hp ⊢
      rcases List.mem_cons.mp hp with rfl | hp
      · exact .inl ⟨rfl, List.mem_cons_self⟩
      rcases List.mem_append.mp hp with hp | hp
      · rcases below hp with ⟨hsource, hlink⟩ | ⟨above, habove, hattached⟩
        · exact .inr ⟨_, List.mem_cons_self, hsource, hlink⟩
        · exact .inr ⟨above, .tail _ (List.mem_append_left _ habove), hattached⟩
      · rcases beside hp with ⟨hsource, hlink⟩ | ⟨above, habove, hattached⟩
        · exact .inl ⟨hsource, .tail _ hlink⟩
        · exact .inr ⟨above, .tail _ (List.mem_append_right _ habove), hattached⟩

namespace Query

def Finds (s : Snapshot) (q : Query) (r : Record) : Prop :=
  r ∈ s.recordsOf q.entityName ∧ q.criteria.holds r = .ok true

/-- A record that a link of a query may start from. -/
inductive Starts (q : Query) (s : Snapshot) : Link → Record → Prop
  | base {l : Link} {r : Record} (hl : l ∈ q.links) (hr : q.Finds s r) : Starts q s l r
  | below {above l : Link} {r : Record} (habove : above ∈ Link.preorderEach q.links)
    (hl : l ∈ above.links) (hr : above.Finds s r) : Starts q s l r

/-- The criteria of a query cannot be decided on a record, or one of its links clashes with a
record of its target type. -/
inductive TestClashes (q : Query) (s : Snapshot) : Breakdown → Prop
  | criteria {r : Record} (hr : r ∈ s.recordsOf q.entityName) (h : q.criteria.Clashes r) :
    TestClashes q s .nanComparison
  | link {l : Link} {r : Record} {cause : Breakdown} (hl : l ∈ Link.preorderEach q.links)
    (hr : r ∈ s.recordsOf l.toEntity) (h : l.Clashes r cause) : TestClashes q s cause

/-- A link may start from a record whose join key is a signaling NaN. -/
def SourceClash (q : Query) (s : Snapshot) : Prop :=
  ∃ l ∈ Link.preorderEach q.links, ∃ r k,
    q.Starts s l r ∧ r.joinKey? l.fromAttr = some k ∧ k.IsSignaling

variable {q : Query} {s : Snapshot}

def plans (q : Query) : List PlannedLink := Link.numberedEach none 0 q.links

/-- Links of a query with the same alias are one link. -/
def AliasesIdentify (q : Query) : Prop :=
  ∀ p ∈ q.plans, ∀ p' ∈ q.plans, p.aliasName.same p'.aliasName = true → p = p'

theorem NamedByTexts.aliasesIdentify (hq : q.NamedByTexts)
    (hnodup : (Link.aliases 0 q.links).Nodup) : q.AliasesIdentify := by
  intro p hp p' hp' hsame
  have htexts : ∀ p ∈ q.plans, p.aliasName.IsText :=
    fun p hp ↦ Link.isText_of_mem_numberedEach hq.aliases hp
  rw [← Link.map_aliasName_numberedEach none] at hnodup
  apply List.inj_on_of_nodup_map hnodup hp hp'
  exact ((htexts p hp).same_iff (htexts p' hp')).mp hsame

theorem link_mem_of_mem_plans {p : PlannedLink} (hp : p ∈ q.plans) :
    p.link ∈ Link.preorderEach q.links :=
  Link.link_mem_of_mem_numberedEach hp

theorem exists_of_mem_preorderEach {l : Link} (hl : l ∈ Link.preorderEach q.links) :
    ∃ p ∈ q.plans, p.link = l := by
  rw [← Link.map_link_numberedEach none 0] at hl
  exact List.mem_map.mp hl

end Query

namespace JoinedRow

/-- A row that a query may have made: its base record satisfies the criteria, and under the alias
of a link there is no record but one that the link finds. -/
structure Placed (row : JoinedRow) (q : Query) (s : Snapshot) : Prop where
  base : q.Finds s row.base
  links : ∀ a r, (a, some r) ∈ row.links → ∃ p ∈ q.plans, p.aliasName = a ∧ p.link.Finds s r

variable {q : Query} {s : Snapshot} {row : JoinedRow}

theorem Placed.of_base {r : Record} (hr : q.Finds s r) : Placed ⟨r, []⟩ q s := ⟨hr, by simp⟩

theorem Placed.bind (h : row.Placed q s) {p : PlannedLink} (hp : p ∈ q.plans) {r : Option Record}
    (hr : ∀ r' ∈ r, p.link.Finds s r') : (row.bind p.aliasName r).Placed q s where
  base := h.base
  links := by
    intro a r' hmem
    rcases List.mem_append.mp hmem with hmem | hmem
    · exact h.links a r' hmem
    · obtain ⟨rfl, rfl⟩ := Prod.mk.inj (List.mem_singleton.mp hmem)
      exact ⟨p, hp, rfl, hr r' rfl⟩

/-- If aliases tell links apart, every link starts from what the link above it has found. -/
theorem Placed.starts (h : row.Placed q s) (haliases : q.AliasesIdentify) {p : PlannedLink}
    (hp : p ∈ q.plans) {r : Record} (hr : row.source p.source = some r) :
    q.Starts s p.link r := by
  rcases Link.attached_of_mem_numberedEach hp with
    ⟨hsource, hlink⟩ | ⟨above, habove, hsource, hlink⟩
  · rw [hsource] at hr
    obtain rfl := Option.some.inj hr
    exact .base hlink h.base
  · rw [hsource] at hr
    obtain ⟨⟨a, found⟩, hfound, hbound⟩ := Option.bind_eq_some_iff.mp hr
    obtain rfl : found = some r := hbound
    obtain ⟨p', hp', rfl, hfinds⟩ := h.links a r (List.mem_of_find?_eq_some hfound)
    have hsame : p'.aliasName.same above.aliasName = true := by
      simpa using List.find?_some hfound
    obtain rfl := haliases p' hp' above habove hsame
    exact .below (Query.link_mem_of_mem_plans hp') hlink hfinds

/-! ## Rows -/

/-- A row that cannot be expanded has a link that cannot ask for its matches. -/
theorem exists_of_expand_eq_error (haliases : q.AliasesIdentify)
    {links : List (PlannedLink × List KeyedRecord)}
    (hlinks : ∀ e ∈ links, e.1 ∈ q.plans ∧ e.1.candidates s = .ok e.2) (hrow : row.Placed q s)
    {fault : Fault} (h : (expand links row).result = .error fault) :
    ∃ e ∈ links, ∃ r, q.Starts s e.1.link r ∧ e.1.matchesFor e.2 r = .error fault := by
  induction links generalizing row with
  | nil => contradiction
  | cons e rest ih =>
      obtain ⟨p, cs⟩ := e
      obtain ⟨⟨hp, hcs⟩, hrest⟩ := List.forall_mem_cons.mp hlinks
      have hlater : ∀ m : Option Record, (∀ r ∈ m, p.link.Finds s r) →
          (expand rest (row.bind p.aliasName m)).result = .error fault → ∃ e ∈ (p, cs) :: rest,
            ∃ r, q.Starts s e.1.link r ∧ e.1.matchesFor e.2 r = .error fault := by
        intro m hm h
        obtain ⟨e, he, hfails⟩ := ih hrest (hrow.bind hp hm) h
        exact ⟨e, .tail _ he, hfails⟩
      rw [expand] at h
      cases hsource : row.source p.source with
      | none =>
          rw [hsource] at h
          exact hlater none (by simp) h
      | some r =>
          simp only [hsource, Traced.result_bind, Traced.result_silent] at h
          rcases bind_eq_error_iff.mp h with h | ⟨found, hfound, h⟩
          · exact ⟨(p, cs), List.mem_cons_self, r, hrow.starts haliases hp hsource, h⟩
          · split at h
            · split at h
              · exact hlater none (by simp) h
              · contradiction
            · obtain ⟨m, hm, h⟩ := Traced.exists_of_flatMap_eq_error h
              apply hlater (some m) _ h
              simpa using PlannedLink.finds_of_mem_matchesFor hcs hfound m hm

/-- Expanding a row breaks down only at a join key that a link reads from its source. -/
theorem expand_failsOnlyBy (haliases : q.AliasesIdentify)
    (hfrom : ∀ l ∈ Link.preorderEach q.links, l.fromAttr.isNameable = true)
    {links : List (PlannedLink × List KeyedRecord)}
    (hlinks : ∀ e ∈ links, e.1 ∈ q.plans ∧ e.1.candidates s = .ok e.2) (hrow : row.Placed q s) :
    FailsOnlyBy (fun cause ↦ cause = .nanKey ∧ q.SourceClash s) (expand links row).result := by
  intro fault h
  obtain ⟨⟨p, cs⟩, he, r, hstarts, hfails⟩ := exists_of_expand_eq_error haliases hlinks hrow h
  have hlink := Query.link_mem_of_mem_plans (hlinks _ he).1
  refine (PlannedLink.matchesFor_failsOnlyBy (hfrom _ hlink) cs r).mono ?_ fault hfails
  rintro cause ⟨rfl, k, hkey, hsignaling⟩
  exact ⟨rfl, p.link, hlink, r, k, hstarts, hkey, hsignaling⟩

theorem base_of_mem_expand {links : List (PlannedLink × List KeyedRecord)} {rows : List JoinedRow}
    (h : (expand links row).result = .ok rows) : ∀ x ∈ rows, x.base = row.base := by
  induction links generalizing row rows with
  | nil =>
      obtain rfl := Except.ok.inj h
      simp
  | cons e rest ih =>
      intro x hx
      obtain ⟨r, rows', hrows', hx⟩ := exists_of_mem_expand_cons h hx
      exact ih hrows' x hx

end JoinedRow

namespace Query

variable {q : Query} {s : Snapshot}

theorem map_snd_attachmentsEach (attachedTo : Json) (ls : List Link) :
    (Link.attachmentsEach attachedTo ls).map Prod.snd = Link.preorderEach ls := by
  induction ls using Link.forest_induction generalizing attachedTo with
  | nil => rfl
  | cons l ls below beside => simp [below, beside]

theorem IsValid.linkCriteria (h : q.IsValid s) {l : Link} (hl : l ∈ Link.preorderEach q.links) :
    l.criteria.WellFormed := by
  rw [← map_snd_attachmentsEach q.entityName] at hl
  obtain ⟨e, he, rfl⟩ := List.mem_map.mp hl
  exact (h.links e he).criteria

theorem allCandidates_failsOnlyBy (hq : q.NamedByTexts) (hvalid : q.IsValid s) :
    FailsOnlyBy (q.TestClashes s) (PlannedLink.allCandidates s q.plans) := by
  have hplans : ∀ plans : List PlannedLink, (∀ p ∈ plans, p ∈ q.plans) →
      FailsOnlyBy (q.TestClashes s) (PlannedLink.allCandidates s plans) := by
    intro plans
    induction plans with
    | nil => exact fun _ ↦ .ok []
    | cons p ps ih =>
        intro hmem
        obtain ⟨hp, hps⟩ := List.forall_mem_cons.mp hmem
        have hlink := link_mem_of_mem_plans hp
        have hcandidates := PlannedLink.candidates_failsOnlyBy (hq.links _ hlink)
          (hvalid.linkCriteria hlink) s
        rw [PlannedLink.allCandidates]
        refine (ih hps).bind fun _ _ ↦ FailsOnlyBy.bind ?_ fun _ _ ↦ .ok _
        refine hcandidates.mono ?_
        rintro cause ⟨r, hr, hclash⟩
        exact .link hlink hr hclash
  exact hplans q.plans fun _ ↦ id

/-- Producing rows breaks down only if a test clashes or a link starts from an unusable key. -/
theorem rows_failsOnlyBy (hq : q.NamedByTexts) (hvalid : q.IsValid s) :
    FailsOnlyBy (fun cause ↦ q.TestClashes s cause ∨ cause = .nanKey ∧ q.SourceClash s)
      (q.rows s q.plans).result := by
  simp only [rows, Traced.result_bind, Traced.result_silent,
    scan_of_isNameable hq.entityName.isNameable]
  refine FailsOnlyBy.bind ((allCandidates_failsOnlyBy hq hvalid).mono fun _ ↦ .inl) ?_
  intro links hlinks
  obtain ⟨hplans, hcandidates⟩ := PlannedLink.allCandidates_eq_ok hlinks
  apply FailsOnlyBy.flatMap
  intro r hr
  simp only [Traced.result_bind, Traced.result_silent]
  refine FailsOnlyBy.bind ?_ fun passed hpassed ↦ ?_
  · refine (Filter.failsOnlyBy_clashes hvalid.criteria hq.criteria).mono ?_
    rintro cause ⟨rfl, hclash⟩
    exact .inl (.criteria hr hclash)
  · cases passed with
    | false => exact .ok []
    | true =>
        have hfound : ∀ e ∈ links, e.1 ∈ q.plans ∧ e.1.candidates s = .ok e.2 :=
          fun e he ↦ ⟨hplans ▸ List.mem_map_of_mem he, hcandidates e he⟩
        have hfrom : ∀ l ∈ Link.preorderEach q.links, l.fromAttr.isNameable = true :=
          fun l hl ↦ (hq.links l hl).fromAttr.isNameable
        exact (JoinedRow.expand_failsOnlyBy (hq.aliasesIdentify hvalid.aliases) hfrom hfound
          (.of_base ⟨hr, hpassed⟩)).mono fun _ ↦ .inr

theorem finds_of_mem_rows {plans : List PlannedLink} {rows : List JoinedRow}
    (h : (q.rows s plans).result = .ok rows) : ∀ row ∈ rows, q.Finds s row.base := by
  intro row hrow
  obtain ⟨links, r, rows', -, hr, hpassed, hrows', hrow⟩ := exists_of_mem_rows h hrow
  have hbase := JoinedRow.base_of_mem_expand hrows' row hrow
  exact hbase ▸ ⟨hr, hpassed⟩

/-- Where rows are produced, every test was decided on every record. -/
theorem not_testClashes_of_rows (hq : q.NamedByTexts) (hvalid : q.IsValid s)
    {rows : List JoinedRow} (h : (q.rows s q.plans).result = .ok rows) (cause : Breakdown) :
    ¬q.TestClashes s cause := by
  obtain ⟨links, hlinks, htested, -⟩ := rows_eq_flatMap h
  intro hclash
  cases hclash with
  | criteria hr hclash =>
      obtain ⟨passed, hpassed⟩ := htested _ hr
      exact Filter.not_clashes_of_holds_eq_ok hvalid.criteria hq.criteria hpassed hclash
  | link hl hr hclash =>
      obtain ⟨hplans, hcandidates⟩ := PlannedLink.allCandidates_eq_ok hlinks
      obtain ⟨p, hp, rfl⟩ := exists_of_mem_preorderEach hl
      rw [← hplans] at hp
      obtain ⟨e, he, rfl⟩ := List.mem_map.mp hp
      exact PlannedLink.not_clashes_of_candidates (hq.links _ hl) (hvalid.linkCriteria hl)
        (hcandidates e he) cause _ hr hclash

end Query

end OrgService
