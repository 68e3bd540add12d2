import OrgService.Proofs.Query.JoinFailure
import OrgService.Proofs.Query.Sorting
import OrgService.Proofs.Store.Appending

/-!
# Results over growing contents

Where all links are inner joins, further records can only add rows: whatever was found before is
still found, in the same order and among the new rows. Sorting keeps it so.
-/

namespace OrgService

/-- What the first contents hold of a type the second ones hold as well, in the same order. -/
def Snapshot.IsPartOf (s s' : Snapshot) : Prop := ∀ n, (s.scan n).Sublist (s'.scan n)

theorem Snapshot.IsPartOf.recordsOf {s s' : Snapshot} (h : s.IsPartOf s') (name : Json) :
    (s.recordsOf name).Sublist (s'.recordsOf name) := by
  cases name with
  | str n => exact h n
  | _ => exact .refl []

theorem Traced.sublist_of_flatMap {α β : Type} {f g : α → Traced (List β)} {xs ys : List α}
    {bs cs : List β} (hbs : (flatMap f xs).result = .ok bs) (hcs : (flatMap g ys).result = .ok cs)
    (hxs : xs.Sublist ys) (hfg : ∀ x ∈ xs, ∀ as as', (f x).result = .ok as →
      (g x).result = .ok as' → as.Sublist as') : bs.Sublist cs := by
  obtain ⟨hf, rfl⟩ := flatMap_result_eq_ok_iff.mp hbs
  obtain ⟨hg, rfl⟩ := flatMap_result_eq_ok_iff.mp hcs
  refine .trans (List.Sublist.flatMap_right xs fun x hx ↦ ?_) (hxs.flatMap _)
  exact hfg x hx _ _ (hf x hx) (hg x (hxs.subset hx))

/-! ## Links -/

namespace PlannedLink

variable {p : PlannedLink} {s s' : Snapshot}

theorem candidatesOf_sublist {rs rs' : List Record} {cs cs' : List KeyedRecord}
    (hrs : rs.Sublist rs') (hcs : p.candidatesOf rs = .ok cs)
    (hcs' : p.candidatesOf rs' = .ok cs') : cs.Sublist cs' := by
  induction hrs generalizing cs cs' with
  | slnil =>
      obtain rfl := Except.ok.inj hcs
      exact List.nil_sublist _
  | cons r hrs ih =>
      obtain ⟨c, -, hcs'⟩ := bind_eq_ok_iff.mp hcs'
      obtain ⟨rest', hrest', hcs'⟩ := bind_eq_ok_iff.mp hcs'
      obtain rfl := Except.ok.inj hcs'
      exact (ih hcs hrest').trans (List.sublist_append_right _ _)
  | cons_cons r hrs ih =>
      obtain ⟨c, hc, hcs⟩ := bind_eq_ok_iff.mp hcs
      obtain ⟨rest, hrest, hcs⟩ := bind_eq_ok_iff.mp hcs
      obtain ⟨c', hc', hcs'⟩ := bind_eq_ok_iff.mp hcs'
      obtain ⟨rest', hrest', hcs'⟩ := bind_eq_ok_iff.mp hcs'
      obtain rfl := Except.ok.inj (hc.symm.trans hc')
      obtain rfl := Except.ok.inj hcs
      obtain rfl := Except.ok.inj hcs'
      exact (ih hrest hrest').append_left _

theorem matchesFor_sublist {cs cs' : List KeyedRecord} {r : Record} {found found' : List Record}
    (hcs : cs.Sublist cs') (hfound : p.matchesFor cs r = .ok found)
    (hfound' : p.matchesFor cs' r = .ok found') : found.Sublist found' := by
  obtain ⟨o, ho, hfound⟩ := bind_eq_ok_iff.mp hfound
  obtain ⟨o', ho', hfound'⟩ := bind_eq_ok_iff.mp hfound'
  obtain rfl := Except.ok.inj (ho.symm.trans ho')
  cases o with
  | none =>
      obtain rfl := Except.ok.inj hfound
      exact List.nil_sublist _
  | some k =>
      obtain ⟨-, -, hfound⟩ := bind_eq_ok_iff.mp hfound
      obtain ⟨-, -, hfound'⟩ := bind_eq_ok_iff.mp hfound'
      obtain rfl := Except.ok.inj hfound
      obtain rfl := Except.ok.inj hfound'
      exact (hcs.filter _).map _

/-- The same links, with candidates of which the first ones are a part. -/
def PartOf : List (PlannedLink × List KeyedRecord) → List (PlannedLink × List KeyedRecord) → Prop :=
  List.Forall₂ fun e e' ↦ e.1 = e'.1 ∧ e.2.Sublist e'.2

theorem allCandidates_partOf (hs : s.IsPartOf s') {plans : List PlannedLink}
    {links links' : List (PlannedLink × List KeyedRecord)}
    (hlinks : allCandidates s plans = .ok links) (hlinks' : allCandidates s' plans = .ok links') :
    PartOf links links' := by
  induction plans generalizing links links' with
  | nil =>
      obtain rfl := Except.ok.inj hlinks
      obtain rfl := Except.ok.inj hlinks'
      exact .nil
  | cons p ps ih =>
      obtain ⟨rest, hrest, hlinks⟩ := bind_eq_ok_iff.mp hlinks
      obtain ⟨cs, hcs, hlinks⟩ := bind_eq_ok_iff.mp hlinks
      obtain ⟨rest', hrest', hlinks'⟩ := bind_eq_ok_iff.mp hlinks'
      obtain ⟨cs', hcs', hlinks'⟩ := bind_eq_ok_iff.mp hlinks'
      obtain rfl := Except.ok.inj hlinks
      obtain rfl := Except.ok.inj hlinks'
      obtain ⟨rs, hrs, hcs⟩ := bind_eq_ok_iff.mp hcs
      obtain ⟨rs', hrs', hcs'⟩ := bind_eq_ok_iff.mp hcs'
      obtain rfl := Query.scan_eq_ok hrs
      obtain rfl := Query.scan_eq_ok hrs'
      have hsub := candidatesOf_sublist (hs.recordsOf p.link.toEntity) hcs hcs'
      exact .cons ⟨rfl, hsub⟩ (ih hrest hrest')

end PlannedLink

/-! ## Rows -/

/-- A row that inner joins expand loses nothing as their candidates grow. -/
theorem JoinedRow.expand_sublist {links links' : List (PlannedLink × List KeyedRecord)}
    (hlinks : PlannedLink.PartOf links links') (hinner : ∀ e ∈ links, e.1.link.join = .inner)
    {row : JoinedRow} {rows rows' : List JoinedRow} (h : (expand links row).result = .ok rows)
    (h' : (expand links' row).result = .ok rows') : rows.Sublist rows' := by
  unfold PlannedLink.PartOf at hlinks
  induction hlinks generalizing row rows rows' with
  | nil =>
      obtain rfl := Except.ok.inj (h.symm.trans h')
      exact .refl rows
  | @cons e e' rest rest' he hrest ih =>
      obtain ⟨p, cs⟩ := e
      obtain ⟨p', cs'⟩ := e'
      obtain ⟨rfl, hcs⟩ : p = p' ∧ cs.Sublist cs' := he
      obtain ⟨hjoin, hinner⟩ : p.link.join = .inner ∧ ∀ e ∈ rest, e.1.link.join = .inner :=
        List.forall_mem_cons.mp hinner
      rw [expand] at h h'
      cases hsource : row.source p.source with
      | none =>
          simp only [hsource] at h h'
          exact ih hinner h h'
      | some r =>
          simp only [hsource, Traced.result_bind, Traced.result_silent, bind_eq_ok_iff] at h h'
          obtain ⟨found, hfound, h⟩ := h
          obtain ⟨found', hfound', h'⟩ := h'
          have hsub := PlannedLink.matchesFor_sublist hcs hfound hfound'
          cases found with
          | nil =>
              simp only [List.isEmpty_nil, if_true, hjoin, Traced.result_bind] at h
              obtain rfl := Except.ok.inj h
              exact List.nil_sublist _
          | cons m ms =>
              -- What was found first is found now, so the match is not empty now either.
              have hmore : found'.isEmpty = false :=
                List.isEmpty_eq_false_iff.mpr (List.ne_nil_of_mem (hsub.subset List.mem_cons_self))
              simp only [List.isEmpty_cons, hmore, Bool.false_eq_true, if_false] at h h'
              exact Traced.sublist_of_flatMap h h' hsub fun m _ _ _ hm hm' ↦ ih hinner hm hm'

namespace Query

variable {q : Query} {s s' : Snapshot} {plans : List PlannedLink}

theorem rows_sublist (hs : s.IsPartOf s') (hinner : ∀ p ∈ plans, p.link.join = .inner)
    {rows rows' : List JoinedRow} (h : (q.rows s plans).result = .ok rows)
    (h' : (q.rows s' plans).result = .ok rows') : rows.Sublist rows' := by
  obtain ⟨links, hlinks, -, hrows⟩ := rows_eq_flatMap h
  obtain ⟨links', hlinks', -, hrows'⟩ := rows_eq_flatMap h'
  have hpart := PlannedLink.allCandidates_partOf hs hlinks hlinks'
  obtain ⟨rfl, -⟩ := PlannedLink.allCandidates_eq_ok hlinks
  rw [hrows] at h
  rw [hrows'] at h'
  exact Traced.sublist_of_flatMap h h' ((hs.recordsOf q.entityName).filter _)
    fun r _ rows rows' hr hr' ↦
      JoinedRow.expand_sublist hpart (List.forall_mem_map.mp hinner) hr hr'

theorem found_sublist (hs : s.IsPartOf s')
    (hinner : ∀ l ∈ Link.preorderEach q.links, l.join = .inner) (htop : q.topCount = none)
    (hnan : ∀ o ∈ q.orders, ∀ r ∈ s'.recordsOf q.entityName, ∀ v ∈ r.present? o.attr,
      v.isNaN = false)
    {x x' : List PlannedLink × List JoinedRow} (h : q.found s = .ok x)
    (h' : q.found s' = .ok x') : x.1 = x'.1 ∧ x.2.Sublist x'.2 := by
  simp only [found, orderedRows, Traced.result_bind, Traced.result_silent, Traced.result_pure, htop,
    bind_eq_ok_iff, mapError_eq_ok_iff] at h h'
  obtain ⟨plans, hplans, -, -, _, ⟨rows, hrows, sorted, hsorted, hlimit⟩, heq⟩ := h
  obtain ⟨plans', hplans', -, -, _, ⟨rows', hrows', sorted', hsorted', hlimit'⟩, heq'⟩ := h'
  obtain rfl := Except.ok.inj (hplans.symm.trans hplans')
  obtain rfl := Except.ok.inj hlimit
  obtain rfl := Except.ok.inj hlimit'
  obtain rfl := Except.ok.inj heq
  obtain rfl := Except.ok.inj heq'
  have hlinks : ∀ p ∈ plans, p.link.join = .inner := by
    obtain ⟨rfl, -⟩ := planLinks_eq_ok_iff.mp hplans
    intro p hp
    exact hinner p.link (Link.link_mem_of_mem_numberedEach hp)
  have hbase : ∀ o ∈ q.orders, JoinedRow.NaNFree o.attr rows' := fun o ho row hrow ↦
    hnan o ho row.base (finds_of_mem_rows hrows' row hrow).1
  have hsub := rows_sublist hs hlinks hrows hrows'
  exact ⟨rfl, JoinedRow.sortAll_sublist hbase hsub hsorted hsorted'⟩

end Query

namespace Store

theorem isPartOf_seed {s : Store} {batch : List Record}
    (h : FitsInto s.contents (prepareAll s.generator batch).1) :
    s.contents.IsPartOf (s.seed batch).1.contents := by
  intro n
  rw [(seed_of_fitsInto h).1, scan_publish id_of_mem_prepareAll h]
  exact List.sublist_append_left _ _

/-- Where all links are inner joins, a query without a limit finds again what it found before a
batch of new records was seeded, in the same order, if it is answered and nothing it is sorted by
is a NaN. -/
theorem records_sublist_of_seed {s : Store} {batch : List Record} {q : Query} {policy : NullPolicy}
    {c c' : Collection} (hnew : FitsInto s.contents (prepareAll s.generator batch).1)
    (hinner : ∀ l ∈ Link.preorderEach q.links, l.join = .inner) (htop : q.topCount = none)
    (hnan : ∀ o ∈ q.orders, ∀ r ∈ (s.seed batch).1.contents.recordsOf q.entityName,
      ∀ v ∈ r.present? o.attr, v.isNaN = false)
    (hc : (q.evaluate s.contents policy).result = .ok c)
    (hc' : (q.evaluate (s.seed batch).1.contents policy).result = .ok c') :
    c.entityName = c'.entityName ∧ c.records.Sublist c'.records := by
  rw [Query.result_evaluate, map_eq_ok_iff] at hc hc'
  obtain ⟨found, hfound, rfl⟩ := hc
  obtain ⟨found', hfound', rfl⟩ := hc'
  obtain ⟨hplans, hrows⟩ :=
    Query.found_sublist (isPartOf_seed hnew) hinner htop hnan hfound hfound'
  refine ⟨rfl, ?_⟩
  rw [← hplans]
  exact hrows.map _

def exampleStore : Store :=
  let account (n : ℕ) (size : ℤ) : Record :=
    ⟨"account", some (Guid.ofNat n), .ofList [("size", .number (.integer size))]⟩
  let contact : Record :=
    ⟨"contact", none, .ofList [("parent", .reference (.str "account") (Guid.ofNat 7) .null)]⟩
  ((new (.sequential 0) true).seed [account 7 1, account 8 2, contact]).1

/-- A contact of the account that had none. -/
def exampleBatch : List Record :=
  [⟨"contact", none, .ofList [("parent", .reference (.str "account") (Guid.ofNat 8) .null)]⟩]

/-- Accounts that have contacts, by size, the greatest first. -/
def exampleInnerQuery : Query :=
  let contact : Link :=
    .simple (.str "account") (.str "contact") (.str "accountid") (.str "parent") .inner
  ⟨.str "account", .every, .empty, [contact], [⟨.str "size", .descending⟩], none⟩

/-- The account that is found in addition comes first. -/
theorem records_sublist_of_seed_example :
    ∃ c c', (exampleInnerQuery.evaluate exampleStore.contents .omit).result = .ok c ∧
      (exampleInnerQuery.evaluate (exampleStore.seed exampleBatch).1.contents .omit).result =
        .ok c' ∧
      c.records.map Record.id = [some (Guid.ofNat 7)] ∧
      c'.records.map Record.id = [some (Guid.ofNat 8), some (Guid.ofNat 7)] ∧
      c.records.Sublist c'.records := by
  have hids : (exampleInnerQuery.evaluate exampleStore.contents .omit).result.map
      (fun c ↦ c.records.map Record.id) = .ok [some (Guid.ofNat 7)] := by
    decide +kernel
  have hids' : (exampleInnerQuery.evaluate
      (exampleStore.seed exampleBatch).1.contents .omit).result.map
      (fun c ↦ c.records.map Record.id) = .ok [some (Guid.ofNat 8), some (Guid.ofNat 7)] := by
    cbv
  obtain ⟨c, hc, hids⟩ := map_eq_ok_iff.mp hids
  obtain ⟨c', hc', hids'⟩ := map_eq_ok_iff.mp hids'
  have hnew : FitsInto exampleStore.contents
      (prepareAll exampleStore.generator exampleBatch).1 := by
    unfold FitsInto
    decide +kernel
  have hinner : ∀ l ∈ Link.preorderEach exampleInnerQuery.links, l.join = .inner := by
    decide +kernel
  have hnan : ∀ o ∈ exampleInnerQuery.orders,
      ∀ r ∈ (exampleStore.seed exampleBatch).1.contents.recordsOf exampleInnerQuery.entityName,
        ∀ v ∈ r.present? o.attr, v.isNaN = false := by
    decide +kernel
  exact ⟨c, c', hc, hc', hids, hids',
    (records_sublist_of_seed hnew hinner rfl hnan hc hc').2⟩

end Store

end OrgService
