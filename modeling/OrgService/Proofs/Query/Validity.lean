import Mathlib.Data.List.Permutation
import OrgService.Proofs.Query.Checks
import OrgService.Proofs.Query.LinkForest
import OrgService.Query.Evaluation

/-!
# Valid queries

Validity is a condition on the tree of links. Validation works on the planned links in a row and
looks up the type that a link hangs from by an alias. The two agree: a query whose names are texts
reaches the production of rows if and only if it is valid.
-/

namespace OrgService

namespace Link

mutual

/-- A link and the links below it, depth first, each with the type that it hangs from. -/
def attachments (attachedTo : Json) : Link → List (Json × Link)
  | link@⟨_, toEntity, _, _, _, _, _, _, links⟩ =>
    (attachedTo, link) :: attachmentsEach toEntity links

def attachmentsEach (attachedTo : Json) : List Link → List (Json × Link)
  | [] => []
  | l :: ls => attachments attachedTo l ++ attachmentsEach attachedTo ls

end

@[simp] theorem attachmentsEach_nil (attachedTo : Json) : attachmentsEach attachedTo [] = [] := rfl

@[simp] theorem attachmentsEach_cons (attachedTo : Json) (l : Link) (ls : List Link) :
    attachmentsEach attachedTo (l :: ls) =
      (attachedTo, l) :: (attachmentsEach l.toEntity l.links ++ attachmentsEach attachedTo ls) := by
  cases l
  simp only [attachmentsEach, attachments, List.cons_append]

/-- A link is called by a text: its alias is one, or it has none and gets one. -/
def CalledByText (l : Link) : Prop := l.aliasName = .null ∨ l.aliasName.IsText

theorem CalledByText.effectiveAlias {l : Link} (h : l.CalledByText) (n : Nat) :
    (l.effectiveAlias n).IsText := by
  unfold Link.effectiveAlias
  split
  · rename_i hgiven
    refine h.resolve_left fun hnull ↦ ?_
    simp [hnull, Json.isGiven] at hgiven
  · exact ⟨_, rfl⟩

theorem isText_of_mem_numberedEach {ls : List Link} {source : Option Json} {n : Nat}
    (h : ∀ l ∈ preorderEach ls, l.CalledByText) {p : PlannedLink}
    (hp : p ∈ numberedEach source n ls) : p.aliasName.IsText := by
  have hmem : p.aliasName ∈ aliases n ls := by
    rw [← map_aliasName_numberedEach source]
    exact List.mem_map_of_mem hp
  obtain ⟨i, hi, heq⟩ := List.mem_mapIdx.mp hmem
  rw [← heq]
  exact (h _ (List.getElem_mem hi)).effectiveAlias _

theorem aliasesDistinct_iff {ps : List PlannedLink} (h : ∀ p ∈ ps, p.aliasName.IsText) :
    AliasesDistinct ps ↔ (ps.map PlannedLink.aliasName).Nodup := by
  rw [List.Nodup, List.pairwise_map]
  refine List.Pairwise.iff_of_mem fun {p q} hp hq ↦ ?_
  rw [← Bool.not_eq_true, (h p hp).same_iff (h q hq)]

end Link

namespace Query

/-- The names and aliases in a query are texts; an alias may be missing. -/
structure NamedByTexts (q : Query) : Prop where
  entityName : q.entityName.IsText
  criteria : ∀ c ∈ q.criteria.allConditions, c.attr.IsText
  orders : ∀ o ∈ q.orders, o.attr.IsText
  links : ∀ l ∈ Link.preorderEach q.links, l.NamedByTexts
  aliases : ∀ l ∈ Link.preorderEach q.links, l.CalledByText

/-- What a snapshot must know and a query must obey for the query to have an answer. -/
structure IsValid (q : Query) (s : Snapshot) : Prop where
  aliases : (Link.aliases 0 q.links).Nodup
  limit : ∀ n, q.topCount = some n → 0 ≤ n
  base : Seeded s q.entityName
  criteria : q.criteria.WellFormed
  tested : ∀ c ∈ q.criteria.allConditions, Known s q.entityName c.attr
  ordered : ∀ o ∈ q.orders, Known s q.entityName o.attr
  links : ∀ e ∈ Link.attachmentsEach q.entityName q.links, e.2.FitsAt s e.1

/-! ## Types of aliases -/

variable {s : Snapshot}

def record (types : AliasTypes) : List PlannedLink → AliasTypes
  | [] => types
  | p :: ps => record ((some p.aliasName, p.link.toEntity) :: types) ps

/-- Planned links, each with the type on record for what it hangs from when its turn comes. -/
def lookUpSources (types : AliasTypes) : List PlannedLink → List (Option Json × PlannedLink)
  | [] => []
  | p :: ps => (typeOf? types p.source, p) ::
      lookUpSources ((some p.aliasName, p.link.toEntity) :: types) ps

theorem checkLinks_eq_forM (types : AliasTypes) (ps : List PlannedLink) :
    checkLinks s types ps =
      (lookUpSources types ps).forM fun e ↦ checkLink s e.2 (e.1.getD .null) := by
  induction ps generalizing types with
  | nil => rfl
  | cons p ps ih => simp only [checkLinks, lookUpSources, List.forM_eq_forM, List.forM_cons, ih]

theorem map_snd_lookUpSources (types : AliasTypes) (ps : List PlannedLink) :
    (lookUpSources types ps).map Prod.snd = ps := by
  induction ps generalizing types with
  | nil => rfl
  | cons p ps ih => rw [lookUpSources, List.map_cons, ih]

theorem lookUpSources_append (types : AliasTypes) (ps qs : List PlannedLink) :
    lookUpSources types (ps ++ qs) =
      lookUpSources types ps ++ lookUpSources (record types ps) qs := by
  induction ps generalizing types with
  | nil => rfl
  | cons p ps ih => simp only [List.cons_append, lookUpSources, record, ih]

theorem typeOf?_cons_self {types : AliasTypes} {a type : Json} (ha : a.IsText) :
    typeOf? ((some a, type) :: types) (some a) = some type := by
  have hsame : sameAlias (some a) (some a) = true := by
    simp [sameAlias, (ha.same_iff ha).mpr rfl]
  simp [typeOf?, hsame]

/-- Types of further aliases do not hide that of another alias. -/
theorem typeOf?_record {types : AliasTypes} {source : Option Json} {ps : List PlannedLink}
    (hsource : ∀ a, source = some a → a.IsText) (htexts : ∀ p ∈ ps, p.aliasName.IsText)
    (hother : ∀ p ∈ ps, some p.aliasName ≠ source) :
    typeOf? (record types ps) source = typeOf? types source := by
  induction ps generalizing types with
  | nil => rfl
  | cons p ps ih =>
      have hp := htexts p List.mem_cons_self
      rw [record, ih (fun q hq ↦ htexts q (.tail _ hq)) (fun q hq ↦ hother q (.tail _ hq))]
      have hdiffers : sameAlias (some p.aliasName) source = false := by
        cases source with
        | none => rfl
        | some a =>
            obtain ⟨t, rfl⟩ := hsource a rfl
            have hne : p.aliasName ≠ .str t := fun heq ↦ hother p List.mem_cons_self (by rw [heq])
            have hsame := mt (hp.same_iff ⟨t, rfl⟩).mp hne
            simpa [sameAlias, Json.isNaN] using hsame
      simp [typeOf?, hdiffers]

/-- What is found for the links of a forest are the types that they hang from, provided that the
type of their common source is on record. -/
theorem lookUpSources_numberedEach {ls : List Link} {source : Option Json} {n : Nat}
    {types : AliasTypes} {attachedTo : Json} (htype : typeOf? types source = some attachedTo)
    (hsource : ∀ a, source = some a → a.IsText)
    (hcalled : ∀ l ∈ Link.preorderEach ls, l.CalledByText)
    (hnodup : (Link.aliases n ls).Nodup) (hother : ∀ a ∈ Link.aliases n ls, some a ≠ source) :
    (lookUpSources types (Link.numberedEach source n ls)).map (fun e ↦ (e.1, e.2.link)) =
      (Link.attachmentsEach attachedTo ls).map fun e ↦ (some e.1, e.2) := by
  induction ls using Link.forest_induction generalizing source n types attachedTo with
  | nil => rfl
  | cons l ls below beside =>
      simp only [Link.preorderEach_cons, List.forall_mem_cons, List.forall_mem_append] at hcalled
      simp only [Link.aliases_cons, List.forall_mem_cons, List.forall_mem_append] at hother
      simp only [Link.aliases_cons, List.nodup_cons, List.nodup_append, List.mem_append, not_or]
        at hnodup
      obtain ⟨⟨hnew, -⟩, hinner, houter, -⟩ := hnodup
      have halias := hcalled.1.effectiveAlias (n + 1)
      have hown : typeOf? ((some (l.effectiveAlias (n + 1)), l.toEntity) :: types)
          (some (l.effectiveAlias (n + 1))) = some l.toEntity := typeOf?_cons_self halias
      have hbelow := below hown (fun a ha ↦ Option.some.inj ha ▸ halias) hcalled.2.1 hinner
        (fun a ha heq ↦ hnew (Option.some.inj heq ▸ ha))
      let visited := ⟨l, l.effectiveAlias (n + 1), source⟩ ::
        Link.numberedEach (some (l.effectiveAlias (n + 1))) (n + 1) l.links
      have hvisited : visited.map PlannedLink.aliasName =
          l.effectiveAlias (n + 1) :: Link.aliases (n + 1) l.links := by
        rw [List.map_cons, Link.map_aliasName_numberedEach]
      have hrecorded : typeOf? (record types visited) source = some attachedTo := by
        rw [typeOf?_record hsource, htype]
        · exact List.forall_mem_cons.mpr
            ⟨halias, fun p hp ↦ Link.isText_of_mem_numberedEach hcalled.2.1 hp⟩
        · have hapart : ∀ a ∈ visited.map PlannedLink.aliasName, some a ≠ source := by
            rw [hvisited]
            exact List.forall_mem_cons.mpr ⟨hother.1, hother.2.1⟩
          exact fun p hp ↦ hapart p.aliasName (List.mem_map_of_mem hp)
      have hbeside := beside (n := n + 1 + (Link.preorderEach l.links).length) hrecorded hsource
        hcalled.2.2 houter hother.2.2
      rw [Link.numberedEach_cons, ← List.cons_append, lookUpSources_append, lookUpSources, htype]
      simp only [List.map_append, List.map_cons, Link.attachmentsEach_cons, hbelow, hbeside,
        visited, List.cons_append]

theorem exists_attachment_of_mem {found : List (Option Json × PlannedLink)} {ls : List Link}
    {attachedTo : Json} (hfound : found.map (fun e ↦ (e.1, e.2.link)) =
      (Link.attachmentsEach attachedTo ls).map fun e ↦ (some e.1, e.2))
    {e : Option Json × PlannedLink} (he : e ∈ found) :
    ∃ type, e.1 = some type ∧ (type, e.2.link) ∈ Link.attachmentsEach attachedTo ls := by
  have hmem : (e.1, e.2.link) ∈ (Link.attachmentsEach attachedTo ls).map fun e ↦ (some e.1, e.2) :=
    hfound ▸ List.mem_map.mpr ⟨e, he, rfl⟩
  obtain ⟨⟨type, l⟩, hattached, heq⟩ := List.mem_map.mp hmem
  obtain ⟨htype, rfl⟩ := Prod.mk.inj heq
  exact ⟨type, htype.symm, hattached⟩

end Query

theorem Link.isText_of_mem_attachmentsEach {ls : List Link} {attachedTo : Json}
    (hattached : attachedTo.IsText) (hlinks : ∀ l ∈ preorderEach ls, l.toEntity.IsText) :
    ∀ e ∈ attachmentsEach attachedTo ls, e.1.IsText := by
  induction ls using forest_induction generalizing attachedTo with
  | nil => simp
  | cons l ls below beside =>
      simp only [preorderEach_cons, List.forall_mem_cons, List.forall_mem_append] at hlinks
      simp only [attachmentsEach_cons, List.forall_mem_cons, List.forall_mem_append]
      exact ⟨hattached, below hlinks.1 hlinks.2.1, beside hattached hlinks.2.2⟩

namespace Query

variable {s : Snapshot}

/-- The links of a forest pass their checks if each fits the type that it hangs from, provided
that the type of their common source is on record. -/
theorem checkLinks_numberedEach {ls : List Link} {source : Option Json} {n : Nat}
    {types : AliasTypes} {attachedTo : Json} (htype : typeOf? types source = some attachedTo)
    (hattached : attachedTo.IsText) (hsource : ∀ a, source = some a → a.IsText)
    (hlinks : ∀ l ∈ Link.preorderEach ls, l.NamedByTexts)
    (hcalled : ∀ l ∈ Link.preorderEach ls, l.CalledByText)
    (hnodup : (Link.aliases n ls).Nodup) (hother : ∀ a ∈ Link.aliases n ls, some a ≠ source) :
    Decides (checkLinks s types (Link.numberedEach source n ls))
      (∀ e ∈ Link.attachmentsEach attachedTo ls, e.2.FitsAt s e.1) := by
  have hfound := lookUpSources_numberedEach htype hsource hcalled hnodup hother
  have htexts := Link.isText_of_mem_attachmentsEach hattached fun l hl ↦ (hlinks l hl).toEntity
  rw [checkLinks_eq_forM]
  refine (Decides.forM (R := fun e ↦ e.2.link.FitsAt s (e.1.getD .null)) fun e he ↦ ?_).congr ?_
  · have hp : e.2 ∈ Link.numberedEach source n ls := by
      rw [← map_snd_lookUpSources types (Link.numberedEach source n ls)]
      exact List.mem_map_of_mem he
    obtain ⟨type, htype', hmem⟩ := exists_attachment_of_mem hfound he
    rw [htype']
    exact checkLink_decides (hlinks _ (Link.link_mem_of_mem_numberedEach hp)) (htexts _ hmem)
      (Link.isText_of_mem_numberedEach hcalled hp).isNameable
  · have hboth : (∀ e ∈ (lookUpSources types (Link.numberedEach source n ls)).map
        (fun e ↦ (e.1, e.2.link)), e.2.FitsAt s (e.1.getD .null)) ↔
        ∀ e ∈ (Link.attachmentsEach attachedTo ls).map (fun e ↦ (some e.1, e.2)),
          e.2.FitsAt s (e.1.getD .null) := by rw [hfound]
    simpa only [List.forall_mem_map, Option.getD_some] using hboth

/-! ## Validation -/

def requireLimit (q : Query) : Except Fault Unit :=
  match q.topCount with
  | some n => if n < 0 then .error (.query (.negativeTopCount n)) else .ok ()
  | none => .ok ()

theorem requireLimit_decides (q : Query) :
    Decides q.requireLimit (∀ n, q.topCount = some n → 0 ≤ n) := by
  unfold requireLimit
  cases q.topCount with
  | none => exact .pure (by simp)
  | some n =>
      by_cases hn : n < 0
      · exact .inr ⟨fun h ↦ Int.not_le.mpr hn (h n rfl), _, if_pos hn⟩
      · exact .inl ⟨fun m hm ↦ Option.some.inj hm ▸ Int.not_lt.mp hn, if_neg hn⟩

theorem validate_eq (q : Query) (plans : List PlannedLink) :
    q.validate s plans = (do
      q.requireLimit
      requireType s q.entityName
      q.criteria.check.mapError .query
      requireAttributes s q.entityName (q.criteria.attributes ++ q.orders.map Order.attr)
      checkLinks s [(none, q.entityName)] plans) := by
  unfold validate requireLimit
  cases q.topCount with
  | none => rfl
  | some n =>
      by_cases hn : n < 0
      · simp only [if_pos hn, bind, Except.bind]
      · simp only [if_neg hn]
        rfl

/-- Given distinct aliases, validation decides everything else that makes a query valid. -/
theorem validate_decides {q : Query} (hq : q.NamedByTexts)
    (hnodup : (Link.aliases 0 q.links).Nodup) :
    Decides (q.validate s (Link.numberedEach none 0 q.links)) (q.IsValid s) := by
  have hattrs : ∀ a ∈ q.criteria.attributes ++ q.orders.map Order.attr, a.IsText := by
    rw [Filter.attributes_eq]
    simp only [List.forall_mem_append, List.forall_mem_map]
    exact ⟨hq.criteria, hq.orders⟩
  have hlinks : Decides
      (checkLinks s [(none, q.entityName)] (Link.numberedEach none 0 q.links)) _ :=
    checkLinks_numberedEach rfl hq.entityName (by simp) hq.links hq.aliases hnodup (by simp)
  rw [validate_eq]
  refine (q.requireLimit_decides.bind fun _ ↦ (requireType_decides hq.entityName).bind fun _ ↦
    (Filter.check_decides _).bind fun _ ↦ (requireAttributes_decides hattrs).bind fun _ ↦
    hlinks).congr ?_
  rw [Filter.attributes_eq]
  simp only [List.forall_mem_append, List.forall_mem_map]
  constructor
  · rintro ⟨hlimit, hbase, hcriteria, ⟨htested, hordered⟩, hlinks⟩
    exact ⟨hnodup, hlimit, hbase, hcriteria, htested, hordered, hlinks⟩
  · intro h
    exact ⟨h.limit, h.base, h.criteria, ⟨h.tested, h.ordered⟩, h.links⟩

theorem aliasesDistinct_iff_nodup {q : Query} (hq : q.NamedByTexts) :
    Link.AliasesDistinct (Link.numberedEach none 0 q.links) ↔ (Link.aliases 0 q.links).Nodup := by
  rw [← Link.map_aliasName_numberedEach none]
  exact Link.aliasesDistinct_iff fun _ hp ↦ Link.isText_of_mem_numberedEach hq.aliases hp

/-- Validation is exact: a query named by texts reaches the production of rows if it is valid, and
otherwise has a fault of its own as its only answer. -/
theorem reaches_rows_iff_isValid {q : Query} (hq : q.NamedByTexts) (s : Snapshot) :
    ((∃ plans, q.planLinks = .ok plans ∧ q.validate s plans = .ok ()) ↔ q.IsValid s) ∧
      (¬q.IsValid s → ∃ f, ∀ policy, q.evaluate s policy = ⟨[], .error (.query f)⟩) := by
  constructor
  · constructor
    · rintro ⟨plans, hplans, hvalidated⟩
      obtain ⟨rfl, hdistinct⟩ := planLinks_eq_ok_iff.mp hplans
      have hnodup := (aliasesDistinct_iff_nodup hq).mp hdistinct
      exact (validate_decides hq hnodup).ok_iff.mp hvalidated
    · intro hvalid
      have hdistinct := (aliasesDistinct_iff_nodup hq).mpr hvalid.aliases
      exact ⟨_, planLinks_eq_ok_iff.mpr ⟨rfl, hdistinct⟩,
        (validate_decides hq hvalid.aliases).ok_iff.mpr hvalid⟩
  · intro hinvalid
    cases hplans : q.planLinks with
    | error f =>
        refine ⟨f, fun policy ↦ ?_⟩
        simp only [evaluate, hplans, mapError_error, Traced.silent_error_bind]
    | ok plans =>
        obtain ⟨rfl, hdistinct⟩ := planLinks_eq_ok_iff.mp hplans
        have hnodup := (aliasesDistinct_iff_nodup hq).mp hdistinct
        obtain ⟨f, hf⟩ := (validate_decides hq hnodup).error hinvalid
        refine ⟨f, fun policy ↦ ?_⟩
        simp only [evaluate, hplans, mapError_ok, Traced.silent_ok_bind, hf,
          Traced.silent_error_bind]

/-! ## An example -/

def exampleContents : Snapshot :=
  let acme : Record := ⟨"account", some (Guid.ofNat 1), OrderedMap.ofList [("name", .text "Acme")]⟩
  let bolt : Record := ⟨"account", some (Guid.ofNat 2), OrderedMap.ofList [("name", .text "Bolt")]⟩
  let ann : Record := ⟨"contact", some (Guid.ofNat 3), OrderedMap.ofList
    [("parent", .reference (.str "account") (Guid.ofNat 1) .null), ("phone", .null)]⟩
  ((Snapshot.empty.put (Guid.ofNat 1) acme).put (Guid.ofNat 2) bolt).put (Guid.ofNat 3) ann

/-- Accounts with their contacts, if any, and from each contact back to its account. -/
def exampleQuery : Query :=
  let owner : Link := ⟨.str "contact", .str "account", .str "parent", .str "accountid", .inner,
    .str "owner", .every, .empty, []⟩
  let contact : Link := ⟨.str "account", .str "contact", .str "accountid", .str "parent", .outer,
    .null, .none, ⟨.or, [⟨.str "phone", .null, []⟩], []⟩, [owner]⟩
  ⟨.str "account", .every, ⟨.and, [⟨.str "name", .notNull, []⟩], []⟩, [contact],
    [⟨.str "name", .descending⟩], some 5⟩

theorem exampleQuery_namedByTexts : exampleQuery.NamedByTexts where
  entityName := ⟨_, rfl⟩
  criteria := by simp [exampleQuery, Filter.allConditions, Filter.allConditionsEach, Json.IsText]
  orders := by simp [exampleQuery, Json.IsText]
  links := by
    simp only [exampleQuery, Link.preorderEach_cons, Link.preorderEach_nil, List.append_nil,
      List.forall_mem_cons, List.not_mem_nil, false_imp_iff, implies_true, and_true]
    constructor
    · refine ⟨⟨_, rfl⟩, ⟨_, rfl⟩, ⟨_, rfl⟩, ⟨_, rfl⟩, ?_⟩
      simp [Filter.allConditions, Filter.allConditionsEach, Json.IsText]
    · refine ⟨⟨_, rfl⟩, ⟨_, rfl⟩, ⟨_, rfl⟩, ⟨_, rfl⟩, ?_⟩
      simp [Filter.empty, Filter.allConditions, Filter.allConditionsEach]
  aliases := by simp [exampleQuery, Link.CalledByText, Json.IsText]

theorem exampleQuery_isValid :
    exampleQuery.NamedByTexts ∧ exampleQuery.IsValid exampleContents :=
  ⟨exampleQuery_namedByTexts,
    (reaches_rows_iff_isValid exampleQuery_namedByTexts exampleContents).1.mp ⟨_, rfl, by cbv⟩⟩

end Query

end OrgService
