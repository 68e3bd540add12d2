import OrgService.Proofs.Query.JoinFailure
import OrgService.Proofs.Query.Numbering

/-!
# Sources of links

A link starts from what is bound under the alias of the link above it. Wherever a row has got to,
all links planned so far are bound on it, each once and in order, and so are their types on record
when a link is checked. So the alias of the link above always leads to what that link has bound,
which is no record if, and only if, it has bound none.
-/

namespace OrgService

/-! ## Rows under way -/

namespace JoinedRow

/-- A row becomes another one under some links, each of which goes on from a row that the one
before it has made. -/
inductive Grows : List (PlannedLink × List KeyedRecord) → JoinedRow → JoinedRow → Prop
  | nil (row : JoinedRow) : Grows [] row row
  | cons {e : PlannedLink × List KeyedRecord} {rest : List (PlannedLink × List KeyedRecord)}
    {row next final : JoinedRow} {rows : List JoinedRow}
    (hrows : (expand [e] row).result = .ok rows) (hnext : next ∈ rows)
    (hrest : Grows rest next final) : Grows (e :: rest) row final

variable {e : PlannedLink × List KeyedRecord} {links rest : List (PlannedLink × List KeyedRecord)}
  {row next final : JoinedRow} {rows : List JoinedRow}

@[simp] theorem grows_nil_iff : Grows [] row final ↔ final = row :=
  ⟨fun h ↦ by cases h; rfl, fun h ↦ h ▸ .nil row⟩

theorem grows_cons_iff : Grows (e :: rest) row final ↔
    ∃ rows, (expand [e] row).result = .ok rows ∧ ∃ next ∈ rows, Grows rest next final := by
  constructor
  · rintro (_ | ⟨hrows, hnext, hrest⟩)
    exact ⟨_, hrows, _, hnext, hrest⟩
  · rintro ⟨rows, hrows, next, hnext, hrest⟩
    exact .cons hrows hnext hrest

theorem grows_append_iff {links' : List (PlannedLink × List KeyedRecord)} :
    Grows (links ++ links') row final ↔ ∃ next, Grows links row next ∧ Grows links' next final := by
  induction links generalizing row with
  | nil => simp
  | cons e links ih =>
      simp only [List.cons_append, grows_cons_iff, ih]
      constructor
      · rintro ⟨rows, hrows, next, hnext, mid, hmid, hfinal⟩
        exact ⟨mid, ⟨rows, hrows, next, hnext, hmid⟩, hfinal⟩
      · rintro ⟨mid, ⟨rows, hrows, next, hnext, hmid⟩, hfinal⟩
        exact ⟨rows, hrows, next, hnext, mid, hmid, hfinal⟩

/-- One link binds one record, or none, under its alias. -/
theorem exists_of_mem_expand_singleton (hrows : (expand [e] row).result = .ok rows)
    (hnext : next ∈ rows) : ∃ bound, next = row.bind e.1.aliasName bound := by
  obtain ⟨bound, rows', hrows', hnext⟩ := exists_of_mem_expand_cons hrows hnext
  obtain rfl := Except.ok.inj hrows'
  exact ⟨bound, List.mem_singleton.mp hnext⟩

/-- Links bind under their aliases in order, after what is bound already. -/
theorem Grows.links_eq (h : Grows links row final) :
    final.base = row.base ∧ ∃ bound, final.links = row.links ++ bound ∧
      bound.map Prod.fst = links.map fun e ↦ e.1.aliasName := by
  induction h with
  | nil row => exact ⟨rfl, [], by simp⟩
  | cons hrows hnext hrest ih =>
      obtain ⟨first, rfl⟩ := exists_of_mem_expand_singleton hrows hnext
      obtain ⟨hbase, bound, hlinks, haliases⟩ := ih
      refine ⟨hbase, (_, first) :: bound, ?_, by rw [List.map_cons, haliases, List.map_cons]⟩
      rw [hlinks, JoinedRow.bind, List.append_assoc, List.singleton_append]

/-- Following all links is following the first one and then the others from each of its rows. -/
theorem result_expand_cons (row : JoinedRow) : (expand (e :: rest) row).result =
    (expand [e] row).result >>= fun rows ↦ (Traced.flatMap (expand rest) rows).result := by
  obtain ⟨p, cs⟩ := e
  rw [expand, expand]
  cases row.source p.source with
  | none => exact congrArg Traced.result (Traced.flatMap_singleton _ _).symm
  | some r =>
      simp only [Traced.result_bind, Traced.result_silent]
      cases p.matchesFor cs r with
      | error fault => rfl
      | ok found =>
          cases found with
          | nil =>
              cases p.link.join with
              | outer => exact congrArg Traced.result (Traced.flatMap_singleton _ _).symm
              | inner => rfl
          | cons m ms =>
              change _ =
                (Traced.flatMap (fun m ↦ pure [row.bind p.aliasName (some m)]) _).result >>= _
              rw [Traced.result_flatMap_pure]
              change _ = (Traced.flatMap (expand rest) _).result
              rw [Traced.flatMap_map]
              rfl

theorem mem_expand_iff (h : (expand links row).result = .ok rows) :
    final ∈ rows ↔ Grows links row final := by
  induction links generalizing row rows with
  | nil =>
      obtain rfl := Except.ok.inj h
      simp
  | cons e rest ih =>
      rw [result_expand_cons, bind_eq_ok_iff] at h
      obtain ⟨first, hfirst, h⟩ := h
      obtain ⟨hall, rfl⟩ := Traced.flatMap_result_eq_ok_iff.mp h
      simp only [grows_cons_iff, List.mem_flatMap, hfirst, Except.ok.injEq, exists_eq_left']
      exact exists_congr fun next ↦ and_congr_right fun hnext ↦ ih (hall next hnext)

/-- A text under which one thing is bound leads to it. -/
theorem source_of_getElem? {j : ℕ} {a : Json} {bound : Option Record}
    (htexts : ∀ a ∈ row.links.map Prod.fst, a.IsText) (hnodup : (row.links.map Prod.fst).Nodup)
    (hj : row.links[j]? = some (a, bound)) : row.source (some a) = bound := by
  obtain ⟨hlt, hget⟩ := List.getElem?_eq_some_iff.mp hj
  have ha : a.IsText := htexts a (List.mem_map.mpr ⟨_, List.mem_of_getElem? hj, rfl⟩)
  have hfound : (row.links.find? fun l ↦ l.1.same a) = some (a, bound) := by
    refine List.find?_eq_some_iff_getElem.mpr ⟨(ha.same_iff ha).mpr rfl, j, hlt, hget, ?_⟩
    intro k hk
    have hklt : k < row.links.length := hk.trans hlt
    have hktext : row.links[k].1.IsText :=
      htexts _ (List.mem_map.mpr ⟨_, List.getElem_mem hklt, rfl⟩)
    have hdiffers :=
      List.pairwise_iff_getElem.mp (List.pairwise_map.mp hnodup) k j hklt hlt hk
    rw [hget] at hdiffers
    simpa using mt (hktext.same_iff ha).mp hdiffers
  rw [source, hfound]
  rfl

end JoinedRow

namespace Query

variable {q : Query} {s : Snapshot} {links : List (PlannedLink × List KeyedRecord)}
  {plans : List PlannedLink} {i k : ℕ} {row : JoinedRow}

/-- A row has come from a base record through the first `i` links. -/
def Reaches (q : Query) (s : Snapshot) (links : List (PlannedLink × List KeyedRecord)) (i : ℕ)
    (row : JoinedRow) : Prop :=
  ∃ r, q.Finds s r ∧ JoinedRow.Grows (links.take i) ⟨r, []⟩ row

theorem Reaches.map_fst_links (h : q.Reaches s links i row) :
    row.links.map Prod.fst = (links.take i).map fun e ↦ e.1.aliasName := by
  obtain ⟨r, -, hgrows⟩ := h
  obtain ⟨-, bound, hlinks, haliases⟩ := hgrows.links_eq
  rw [hlinks, List.nil_append, haliases]

/-- On its way a row has come through every link before. -/
theorem Reaches.take (h : q.Reaches s links i row) (hk : k ≤ i) :
    q.Reaches s links k ⟨row.base, row.links.take k⟩ := by
  obtain ⟨r, hr, hgrows⟩ := h
  have hsplit := (List.take_append_drop k (links.take i)).symm
  rw [List.take_take, Nat.min_eq_left hk] at hsplit
  rw [hsplit] at hgrows
  obtain ⟨next, hnext, hrow⟩ := JoinedRow.grows_append_iff.mp hgrows
  obtain ⟨-, bound, hbound, hboundAliases⟩ := hnext.links_eq
  obtain ⟨hbase, later, hlater, hlaterAliases⟩ := hrow.links_eq
  have hboundLength := congrArg List.length hboundAliases
  have hlaterLength := congrArg List.length hlaterAliases
  simp only [List.length_map, List.length_take, List.length_drop] at hboundLength hlaterLength
  rw [List.nil_append] at hbound
  have hlinks : row.links.take k = next.links := by
    have hrest : later.take (k - bound.length) = [] := by
      rw [List.take_eq_nil_iff, ← List.length_eq_zero_iff]
      omega
    rw [hlater, hbound, List.take_append, hrest, List.append_nil]
    exact List.take_of_length_le (by omega)
  rw [hlinks, hbase]
  exact ⟨r, hr, hnext⟩

theorem mem_rows_iff_reaches {rows : List JoinedRow}
    (hlinks : PlannedLink.allCandidates s plans = .ok links)
    (hrows : (q.rows s plans).result = .ok rows) :
    row ∈ rows ↔ q.Reaches s links plans.length row := by
  obtain ⟨hplans, -⟩ := PlannedLink.allCandidates_eq_ok hlinks
  have hall : links.take plans.length = links := by
    rw [← hplans, List.length_map, List.take_length]
  obtain ⟨links', hlinks', -, heq⟩ := rows_eq_flatMap hrows
  obtain rfl := Except.ok.inj (hlinks.symm.trans hlinks')
  rw [heq] at hrows
  obtain ⟨hdone, rfl⟩ := Traced.flatMap_result_eq_ok_iff.mp hrows
  have hfinds : ∀ r, q.Finds s r ↔ r ∈ (s.recordsOf q.entityName).filter fun r ↦
      q.criteria.holds r = .ok true := by
    simp [Finds]
  simp only [List.mem_flatMap, Reaches, hall, hfinds]
  exact exists_congr fun r ↦ and_congr_right fun hr ↦ JoinedRow.mem_expand_iff (hdone r hr)

/-! ## Types on record -/

theorem record_append (types : AliasTypes) (ps ps' : List PlannedLink) :
    record types (ps ++ ps') = record (record types ps) ps' := by
  induction ps generalizing types with
  | nil => rfl
  | cons p ps ih => exact ih _

/-- What is on record when the turn of a link comes is what the links before it have left. -/
theorem getElem?_lookUpSources (types : AliasTypes) (ps : List PlannedLink) (i : ℕ) :
    (lookUpSources types ps)[i]? =
      ps[i]?.map fun p ↦ (typeOf? (record types (ps.take i)) p.source, p) := by
  induction ps generalizing types i with
  | nil => simp [lookUpSources]
  | cons p ps ih =>
      cases i with
      | zero => rfl
      | succ i => simp [lookUpSources, ih, record]

/-- The type of a link stays on record under its alias. -/
theorem typeOf?_record_of_mem {types : AliasTypes} {ps : List PlannedLink} {p : PlannedLink}
    (htexts : ∀ p ∈ ps, p.aliasName.IsText) (hnodup : (ps.map PlannedLink.aliasName).Nodup)
    (hp : p ∈ ps) : typeOf? (record types ps) (some p.aliasName) = some p.link.toEntity := by
  obtain ⟨before, after, rfl⟩ := List.append_of_mem hp
  rw [List.map_append, List.map_cons] at hnodup
  have hlater : p.aliasName ∉ after.map PlannedLink.aliasName :=
    (List.nodup_cons.mp hnodup.of_append_right).1
  have hafter : ∀ p' ∈ after, some p'.aliasName ≠ some p.aliasName := by
    intro p' hp' heq
    exact hlater (Option.some.inj heq ▸ List.mem_map_of_mem hp')
  have hown := htexts p hp
  rw [record_append, record, typeOf?_record (fun a ha ↦ Option.some.inj ha ▸ hown)
    (fun p' hp' ↦ htexts p' (by simp [hp'])) hafter, typeOf?_cons_self hown]

/-! ## What links hang from -/

/-- What an entry hangs from: the base record, or what is bound for the entry at a position. -/
inductive HangsFrom (entries : List (List ℕ × PlannedLink)) (e : List ℕ × PlannedLink) :
    Option ℕ → Prop
  | base (k : ℕ) (haddress : e.1 = [k]) : HangsFrom entries e none
  | link {j : ℕ} {parent : List ℕ × PlannedLink} (k : ℕ) (hparent : entries[j]? = some parent)
    (haddress : e.1 = parent.1 ++ [k]) : HangsFrom entries e (some j)

/-- The type of the records that a link hangs from. -/
def typeAbove (q : Query) (plans : List PlannedLink) : Option ℕ → Option Json
  | none => some q.entityName
  | some j => plans[j]?.map fun p ↦ p.link.toEntity

/-- What a row holds for a link to hang from, if it holds anything for it: a record or none. -/
def boundAbove (row : JoinedRow) : Option ℕ → Option (Option Record)
  | none => some (some row.base)
  | some j => row.links[j]?.map Prod.snd

/-- The plans of a query are its links in depth-first order, and the alias of what a link hangs
from leads there, both when types are looked up and when records are. -/
structure SourcesResolve (q : Query) (plans : List PlannedLink)
    (entries : List (List ℕ × PlannedLink)) : Prop where
  listed : Link.ListsDepthFirst q.links entries
  planned : entries.map Prod.snd = plans
  /-- Links are checked against the types that are looked up. -/
  checked : ∀ s, checkLinks s [(none, q.entityName)] plans =
    (lookUpSources [(none, q.entityName)] plans).forM fun e ↦ checkLink s e.2 (e.1.getD .null)
  resolved : ∀ i e, entries[i]? = some e → ∃ above, HangsFrom entries e above ∧
    (∀ j ∈ above, j < i) ∧
    (∃ type, q.typeAbove plans above = some type ∧
      (lookUpSources [(none, q.entityName)] plans)[i]? = some (some type, e.2)) ∧
    ∀ s links row, PlannedLink.allCandidates s plans = .ok links → q.Reaches s links i row →
      boundAbove row above = some (row.source e.2.source)
  /-- On a row the aliases of all links before are bound, each by its own link. -/
  bound : ∀ s links i row, PlannedLink.allCandidates s plans = .ok links →
    q.Reaches s links i row →
      row.links.map Prod.fst = (plans.take i).map PlannedLink.aliasName ∧
      (row.links.map Prod.fst).Nodup ∧
      ∀ k ≤ i, q.Reaches s links k ⟨row.base, row.links.take k⟩
  /-- The rows of a query are those that get through all links. -/
  reached : ∀ s links rows, PlannedLink.allCandidates s plans = .ok links →
    (q.rows s plans).result = .ok rows → ∀ row, row ∈ rows ↔ q.Reaches s links plans.length row

section plans

variable (htexts : ∀ p ∈ plans, p.aliasName.IsText)
  (hnodup : (plans.map PlannedLink.aliasName).Nodup)

/-- Every row has the aliases of the links before bound. -/
theorem Reaches.map_aliasName (hlinks : PlannedLink.allCandidates s plans = .ok links)
    (h : q.Reaches s links i row) :
    row.links.map Prod.fst = (plans.take i).map PlannedLink.aliasName := by
  obtain ⟨rfl, -⟩ := PlannedLink.allCandidates_eq_ok hlinks
  rw [h.map_fst_links, ← List.map_take, List.map_map]
  rfl

include hnodup

theorem Reaches.nodup (hlinks : PlannedLink.allCandidates s plans = .ok links)
    (h : q.Reaches s links i row) : (row.links.map Prod.fst).Nodup := by
  rw [h.map_aliasName hlinks, List.map_take]
  exact hnodup.sublist (List.take_sublist _ _)

include htexts

/-- The alias of a link before leads to what is bound for it. -/
theorem Reaches.source_eq (hlinks : PlannedLink.allCandidates s plans = .ok links)
    (h : q.Reaches s links i row) {j : ℕ} {p : PlannedLink} (hj : j < i) (hp : plans[j]? = some p) :
    row.links[j]?.map Prod.snd = some (row.source (some p.aliasName)) := by
  have haliases := h.map_aliasName hlinks
  have hget : row.links[j]?.map Prod.fst = some p.aliasName := by
    rw [← List.getElem?_map, haliases, List.getElem?_map, List.getElem?_take_of_lt hj, hp]
    rfl
  obtain ⟨⟨a, bound⟩, hbound, rfl⟩ := Option.map_eq_some_iff.mp hget
  have hbounds : ∀ a ∈ row.links.map Prod.fst, a.IsText := by
    rw [haliases, List.forall_mem_map]
    exact fun p hp ↦ htexts p (List.mem_of_mem_take hp)
  rw [hbound, JoinedRow.source_of_getElem? hbounds (h.nodup hnodup hlinks) hbound]
  rfl

theorem typeOf?_alias {j : ℕ} {p : PlannedLink} (hj : j < i) (hp : plans[j]? = some p) :
    typeOf? (record [(none, q.entityName)] (plans.take i)) (some p.aliasName) =
      some p.link.toEntity := by
  refine typeOf?_record_of_mem (fun p' hp' ↦ htexts p' (List.mem_of_mem_take hp')) ?_ ?_
  · rw [List.map_take]
    exact hnodup.sublist (List.take_sublist _ _)
  · rw [← List.getElem?_take_of_lt hj] at hp
    exact List.mem_of_getElem? hp

omit hnodup in
theorem typeOf?_none : typeOf? (record [(none, q.entityName)] (plans.take i)) none =
    some q.entityName :=
  typeOf?_record (by simp) (fun p hp ↦ htexts p (List.mem_of_mem_take hp)) (by simp)

end plans

/-- If a query whose links are called by texts can be planned, the aliases of its plans resolve. -/
theorem sources_resolve {q : Query} {plans : List PlannedLink}
    (hcalled : ∀ l ∈ Link.preorderEach q.links, l.CalledByText)
    (hplans : q.planLinks = .ok plans) : ∃ entries, q.SourcesResolve plans entries := by
  obtain ⟨rfl, hdistinct⟩ := planLinks_eq_ok_iff.mp hplans
  have htexts : ∀ p ∈ Link.numberedEach none 0 q.links, p.aliasName.IsText :=
    fun _ ↦ Link.isText_of_mem_numberedEach hcalled
  have hnodup := (Link.aliasesDistinct_iff htexts).mp hdistinct
  have hlisted := Link.listsDepthFirst hcalled
  have hplanned : (Link.addressedEach [] 0 none 0 q.links).map Prod.snd =
      Link.numberedEach none 0 q.links := Link.map_snd_addressedEach
  refine ⟨_, hlisted, hplanned, fun s ↦ checkLinks_eq_forM _ _, fun i e he ↦ ?_, ?_, ?_⟩
  · have hplan : (Link.numberedEach none 0 q.links)[i]? = some e.2 := by
      rw [← hplanned, List.getElem?_map, he, Option.map_some]
    rw [getElem?_lookUpSources, hplan, Option.map_some]
    rcases hlisted.source i e he with
      ⟨⟨k, haddress⟩, hsource⟩ | ⟨j, hj, parent, hparent, ⟨k, haddress⟩, hsource⟩
    · rw [hsource]
      refine ⟨none, .base k haddress, by simp, ⟨q.entityName, rfl, ?_⟩, fun _ _ _ _ _ ↦ rfl⟩
      rw [typeOf?_none htexts]
    · have hparentPlan : (Link.numberedEach none 0 q.links)[j]? = some parent.2 := by
        rw [← hplanned, List.getElem?_map, hparent, Option.map_some]
      rw [hsource]
      refine ⟨some j, .link k hparent haddress, by simpa using hj, ⟨parent.2.link.toEntity, ?_, ?_⟩,
        fun s links row hlinks hrow ↦ hrow.source_eq htexts hnodup hlinks hj hparentPlan⟩
      · rw [typeAbove, hparentPlan, Option.map_some]
      · rw [typeOf?_alias htexts hnodup hj hparentPlan]
  · intro s links i row hlinks hrow
    exact ⟨hrow.map_aliasName hlinks, hrow.nodup hnodup hlinks, fun k hk ↦ hrow.take hk⟩
  · exact fun s links rows hlinks hrows row ↦ mem_rows_iff_reaches hlinks hrows

/-- The second account has no contact, which is known when the contact's own account is looked
for. -/
theorem sources_resolve_example :
    (∀ l ∈ Link.preorderEach exampleQuery.links, l.CalledByText) ∧
      exampleQuery.planLinks = .ok exampleQuery.plans ∧
      (∃ entries, exampleQuery.SourcesResolve exampleQuery.plans entries) ∧
      ∃ links row,
        PlannedLink.allCandidates exampleContents exampleQuery.plans = .ok links ∧
        exampleQuery.Reaches exampleContents links 1 row ∧
        row.links.map Prod.fst = [.str "contact1"] ∧
        row.links.map (fun l ↦ l.2.isSome) = [false] := by
  have hcalled : ∀ l ∈ Link.preorderEach exampleQuery.links, l.CalledByText :=
    exampleQuery_namedByTexts.aliases
  have hplans : exampleQuery.planLinks = .ok exampleQuery.plans := by rfl
  have hfound : (exampleQuery.rows exampleContents exampleQuery.plans).result.map
      (List.map fun row ↦ row.links.map fun l ↦ l.2.isSome) =
        .ok [[true, true], [false, false]] := by decide +kernel
  obtain ⟨rows, hrows, hfound⟩ := map_eq_ok_iff.mp hfound
  have hsecond : [false, false] ∈ rows.map fun row ↦ row.links.map fun l ↦ l.2.isSome := by
    rw [hfound]
    simp
  obtain ⟨row, hrow, hbound⟩ := List.mem_map.mp hsecond
  obtain ⟨links, -, -, hlinks, -⟩ := exists_of_mem_rows hrows hrow
  obtain ⟨entries, hsources⟩ := sources_resolve hcalled hplans
  have hreaches := (hsources.reached _ links rows hlinks hrows row).mp hrow
  obtain ⟨haliases, -, hbefore⟩ := hsources.bound _ links _ row hlinks hreaches
  refine ⟨hcalled, hplans, ⟨entries, hsources⟩, links, _, hlinks, hbefore 1 (by decide), ?_, ?_⟩
  · rw [List.map_take, haliases]
    rfl
  · rw [List.map_take, hbound]
    rfl

end Query

end OrgService
