import OrgService.Proofs.Query.Projection
import OrgService.Proofs.Service.ReadPaths
import OrgService.Proofs.Store.Appending
import OrgService.Proofs.Store.Freshness

/-!
# Export and import

All records of a type, with all of their attributes, can be written to a seed document. Where the
store was itself seeded from documents, the document is read back, and a new store that is seeded
with it exports the same document again.
-/

namespace OrgService

/-! ## Queries for all records of a type -/

namespace Query

/-- The query for all records of a type. -/
def ofType (n : String) (columns : ColumnSet) : Query :=
  ⟨.str n, columns, .empty, [], [], none⟩

variable {n : String} {columns : ColumnSet} {s : Snapshot}

theorem validate_ofType (hn : s.hasType n = true) : (ofType n columns).validate s [] = .ok () := by
  have hvalidate : (ofType n columns).validate s [] = requireType s (.str n) >>= fun _ ↦ .ok () :=
    rfl
  rw [hvalidate, requireType_of_seeded hn]
  rfl

theorem evaluate_ofType (hn : s.hasType n = true) (policy : NullPolicy) :
    ((ofType n columns).evaluate s policy).result =
      .ok ⟨.str n, (s.scan n).map fun r ↦ r.project columns policy⟩ := by
  have hpasses : ∀ r ∈ s.scan n, (ofType n columns).criteria.holds r = .ok true := fun _ _ ↦ rfl
  have hresult := evaluate_of_holds rfl rfl rfl rfl (validate_ofType hn) hpasses policy
  rwa [List.filter_true] at hresult

end Query

/-! ## Stored records -/

namespace Store

section

variable {P : Record → Prop} (hP : ∀ r id, P r → P { r with id })

include hP

theorem forall_mem_identified {g : IdGenerator} {batch : List Record} (h : ∀ r ∈ batch, P r) :
    ∀ r ∈ identified g batch, P r := by
  intro r hr
  obtain ⟨i, hi, rfl⟩ := List.mem_mapIdx.mp hr
  exact hP _ _ (h _ (List.getElem_mem hi))

theorem Ledger.forall_mem_history_step {l : Ledger} (hl : ∀ r ∈ l.history, P r) {a : Action}
    (ha : ∀ batch, a = .seed batch → ∀ r ∈ batch, P r) : ∀ r ∈ (l.step a).1.history, P r := by
  by_cases hread : a.isRead = true
  · rwa [(step_fst_of_isRead hread).1]
  · obtain ⟨batch, rfl⟩ : ∃ batch, a = .seed batch := by
      cases a <;> simp [Action.isRead] at hread ⊢
    have hhistory := l.history_seed batch
    rcases hhistory with hsame | hmore
    · rwa [step, hsame]
    · rw [step, hmore]
      exact List.forall_mem_append.mpr ⟨hl, forall_mem_identified hP (ha batch rfl)⟩

/-- What holds of all records that a store is seeded with, whatever their identifiers, holds of
the history. -/
theorem Ledger.forall_mem_history_after {l : Ledger} (hl : ∀ r ∈ l.history, P r)
    {actions : List Action} (hactions : ∀ batch, .seed batch ∈ actions → ∀ r ∈ batch, P r) :
    ∀ r ∈ (after step l actions).history, P r := by
  induction actions generalizing l with
  | nil => exact hl
  | cons a actions ih =>
      apply ih
      · apply forall_mem_history_step hP hl
        rintro batch rfl
        exact hactions batch List.mem_cons_self
      · intro batch hbatch
        exact hactions batch (List.mem_cons_of_mem a hbatch)

end

theorem Session.isDecodable_of_mem_scan {generator : IdGenerator} {strict : Bool}
    {actions : List Action} {n : String}
    (hdecoded : ∀ batch, .seed batch ∈ actions → ∃ raw, Record.decodeSeed raw = .ok batch) :
    ∀ r ∈ (after step (new generator strict) actions).store.contents.scan n, r.IsDecodable := by
  have hx := (matches_new generator strict).after actions
  have hid : ∀ (r : Record) id, r.IsDecodable → { r with id }.IsDecodable :=
    fun _ _ hr ↦ ⟨hr.logicalName_ne, hr.name_ne, hr.isDecodable_value⟩
  have hbatches : ∀ batch, .seed batch ∈ actions → ∀ r ∈ batch, r.IsDecodable := by
    intro batch hbatch
    obtain ⟨raw, hraw⟩ := hdecoded batch hbatch
    exact Record.isDecodable_of_mem_decodeSeed hraw
  intro r hr
  rw [hx.contents.scan_eq] at hr
  exact Ledger.forall_mem_history_after hid (List.forall_mem_nil _) hbatches r
    (History.mem_of_mem_scan hr)

/-! ## Importing records -/

/-- Records that have identifiers keep them. -/
theorem identified_eq_self {g : IdGenerator} {batch : List Record}
    (h : ∀ r ∈ batch, ∃ id, r.id = some id) : identified g batch = batch := by
  induction batch with
  | nil => rfl
  | cons r batch ih =>
      obtain ⟨⟨id, hid⟩, h⟩ := List.forall_mem_cons.mp h
      rw [identified_cons_some hid, ih h]

/-- A new store accepts records of one type with distinct identifiers, and yields them in their
order. -/
theorem seed_new {rows : List Record} {n : String}
    (hrows : ∀ r ∈ rows, r.logicalName = n ∧ ∃ id, r.id = some id)
    (hnodup : (rows.map Record.identity).Nodup) (generator : IdGenerator) (strict : Bool) :
    ((new generator strict).seed rows).2.result = .ok rows ∧
      ((new generator strict).seed rows).1.contents.scan n = rows := by
  have hprepared : (prepareAll (new generator strict).generator rows).1.map Prod.snd = rows := by
    rw [map_snd_prepareAll]
    exact identified_eq_self fun r hr ↦ (hrows r hr).2
  have hfits : FitsInto (new generator strict).contents
      (prepareAll (new generator strict).generator rows).1 := by
    refine ⟨?_, fun p _ ↦ rfl⟩
    rw [← hprepared, List.map_map] at hnodup
    exact hnodup
  obtain ⟨hcontents, hresult⟩ := seed_of_fitsInto hfits
  constructor
  · rw [hresult]
    exact congrArg Except.ok hprepared
  · have hempty : (new generator strict).contents.scan n = [] := rfl
    have hscan := scan_publish id_of_mem_prepareAll hfits n
    rw [hempty, List.nil_append] at hscan
    rw [hcontents, hscan]
    refine Eq.trans ?_ hprepared
    apply List.filter_eq_self.mpr
    intro r hr
    exact decide_eq_true (hrows r (hprepared ▸ hr)).1

/-- All records of a type, as the query for them answers when it retains nulls, make a document that
is read back as these records. A new store accepts them, and the same query answers there with the
same records. -/
theorem Session.reexport_eq_export (generator : IdGenerator) (strict : Bool)
    (actions : List Action) (n : String) (columns : ColumnSet) (hall : columns.all = true)
    (hdecoded : ∀ batch, .seed batch ∈ actions → ∃ raw, Record.decodeSeed raw = .ok batch)
    (hn : (after step (new generator strict) actions).store.contents.hasType n = true) :
    ∃ rows, ((Query.ofType n columns).evaluate
        (after step (new generator strict) actions).store.contents .retain).result =
          .ok ⟨.str n, rows⟩ ∧
      Record.decodeSeed (.arr (rows.map Record.encode)) = .ok rows ∧
      ∀ (generator' : IdGenerator) (strict' : Bool),
        ((Store.new generator' strict').seed rows).2.result = .ok rows ∧
        ((Query.ofType n columns).evaluate ((Store.new generator' strict').seed rows).1.contents
          .retain).result = .ok ⟨.str n, rows⟩ := by
  have hx := (matches_new generator strict).after actions
  have hdecodable : ∀ r ∈ (after step (new generator strict) actions).store.contents.scan n,
      r.IsDecodable := isDecodable_of_mem_scan hdecoded
  let scanned := (after step (new generator strict) actions).store.contents.scan n
  let rows := scanned.map fun r ↦ r.project columns .retain
  have hrows : ∀ r ∈ rows, (r.logicalName = n ∧ ∃ id, r.id = some id) ∧ r.IsDecodable ∧
      r.project columns .retain = r := by
    intro row hrow
    obtain ⟨r, hr, rfl⟩ := List.mem_map.mp hrow
    obtain ⟨hname, id, hid⟩ := hx.contents.identity_of_mem_scan hr
    have hexported : (r.project columns .retain).IsExported .retain :=
      Record.isExported_project hall ((hdecodable r hr).isPresent_primary hid)
    exact ⟨⟨hname, id, hid⟩, (hdecodable r hr).project hall, hexported.project_eq hall⟩
  have hnodup : (rows.map Record.identity).Nodup := by
    have hidentity : rows.map Record.identity = scanned.map Record.identity := by
      rw [List.map_map]
      rfl
    rw [hidentity]
    exact hx.contents.nodup_identity_scan n
  refine ⟨rows, Query.evaluate_ofType hn .retain,
    Record.decodeSeed_encode fun r hr ↦ (hrows r hr).2.1, fun generator' strict' ↦ ?_⟩
  obtain ⟨haccepted, hscan⟩ := seed_new (fun r hr ↦ (hrows r hr).1) hnodup generator' strict'
  refine ⟨haccepted, ?_⟩
  have hseeded : ((Store.new generator' strict').seed rows).1.contents.hasType n = true := by
    obtain ⟨r, hr⟩ := hx.contents.exists_mem_scan hn
    apply Snapshot.hasType_of_mem_scan
    rw [hscan]
    exact List.mem_map_of_mem hr
  rw [Query.evaluate_ofType hseeded, hscan, List.map_congr_left fun r hr ↦ (hrows r hr).2.2,
    List.map_id']

/-- An account whose primary attribute is null, and one that has none. -/
def exampleAccounts : Json :=
  .arr [.obj [("logical_name", .str "account"),
      ("attributes", .obj [("name", .str "Acme"), ("accountid", .null)])],
    .obj [("logical_name", .str "account"), ("id", .str "00000000-0000-0000-0000-000000000007"),
      ("attributes", .obj [("paid", .obj [("$money", .str "12.50")])])]]

/-- The primary attribute comes first in the export, and again when this is exported. -/
theorem Session.reexport_eq_export_example :
    let query := Query.ofType "account" .every
    ∃ batch rows, Record.decodeSeed exampleAccounts = .ok batch ∧
      (query.evaluate (after step (new (.sequential 0) true) [.seed batch]).store.contents
        .retain).result = .ok ⟨.str "account", rows⟩ ∧
      rows.map (fun r ↦ r.attributes.keys) = [["accountid", "name"], ["accountid", "paid"]] ∧
      Record.decodeSeed (.arr (rows.map Record.encode)) = .ok rows ∧
      (query.evaluate ((Store.new (.sequential 0) false).seed rows).1.contents .retain).result =
        .ok ⟨.str "account", rows⟩ := by
  intro query
  let contents (batch : List Record) : Snapshot :=
    (after step (new (.sequential 0) true) [.seed batch]).store.contents
  have hseeded : (Record.decodeSeed exampleAccounts).map
      (fun batch ↦ (contents batch).hasType "account") = .ok true := by
    decide +kernel
  have hkeys : (Record.decodeSeed exampleAccounts >>= fun batch ↦
      (query.evaluate (contents batch) .retain).result).map
        (fun c ↦ c.records.map fun r ↦ r.attributes.keys) =
          .ok [["accountid", "name"], ["accountid", "paid"]] := by
    decide +kernel
  obtain ⟨batch, hbatch, hn⟩ := map_eq_ok_iff.mp hseeded
  have hdecoded : ∀ batch', Action.seed batch' ∈ [Action.seed batch] →
      ∃ raw, Record.decodeSeed raw = .ok batch' := by
    intro batch' hmem
    obtain rfl := Action.seed.inj (List.mem_singleton.mp hmem)
    exact ⟨_, hbatch⟩
  obtain ⟨rows, hrows, hread, himported⟩ :=
    reexport_eq_export (.sequential 0) true [.seed batch] "account" .every rfl hdecoded hn
  obtain ⟨c, hc, hkeys⟩ := map_eq_ok_iff.mp hkeys
  have hevaluated : (query.evaluate (contents batch) .retain).result = .ok c := by
    rwa [hbatch] at hc
  obtain rfl := Except.ok.inj (hrows.symm.trans hevaluated)
  exact ⟨batch, rows, hbatch, hrows, hkeys, hread, (himported (.sequential 0) false).2⟩

end Store

end OrgService
