import Mathlib.Data.Finset.Card
import Mathlib.Data.List.Range
import OrgService.Proofs.Guid
import OrgService.Proofs.Store.Strict

/-!
# Identifiers from a counter

The sequential generator counts on whatever identifiers records bring along. What it assigns is
new exactly if no record was seeded with that identifier explicitly; then seeding a record without
an identifier replaces nothing, is never refused, and makes the store one record larger.
-/

namespace OrgService

/-- The identity that a record brings along, if it has an identifier. -/
def Record.givenIdentity? (r : Record) : Option (String × Guid) :=
  r.id.map fun id ↦ (r.logicalName, id)

namespace Store

def given (batch : List Record) : List (String × Guid) := batch.filterMap Record.givenIdentity?

/-- The identities under which the records of a batch are stored that bring no identifier. -/
def assigned (g : IdGenerator) (batch : List Record) : List (String × Guid) :=
  (batch.zip (prepareAll g batch).1).filterMap fun rp ↦
    if rp.1.id.isNone then some (key rp.2) else none

/-! ## Preparing a batch -/

section

variable {g : IdGenerator} {r : Record} {batch : List Record} {id : Guid}

theorem assigned_cons_some (hid : r.id = some id) :
    assigned g (r :: batch) = assigned g batch := by
  simp [assigned, prepareAll_cons_some hid, hid]

theorem assigned_cons_none (hid : r.id = none) :
    assigned g (r :: batch) = (r.logicalName, g.next.1) :: assigned g.next.2 batch := by
  simp [assigned, prepareAll_cons_none hid, hid, key]

end

/-- A batch is stored under the identities it brings along and those that are assigned. -/
theorem perm_given_assigned (g : IdGenerator) (batch : List Record) :
    ((prepareAll g batch).1.map key).Perm (given batch ++ assigned g batch) := by
  induction batch generalizing g with
  | nil => exact .nil
  | cons r batch ih =>
      cases hid : r.id with
      | some id =>
          have hgiven : given (r :: batch) = (r.logicalName, id) :: given batch := by
            simp [given, Record.givenIdentity?, hid]
          rw [prepareAll_cons_some hid, assigned_cons_some hid, hgiven]
          exact (ih g).cons _
      | none =>
          have hgiven : given (r :: batch) = given batch := by
            simp [given, Record.givenIdentity?, hid]
          rw [prepareAll_cons_none hid, assigned_cons_none hid, hgiven]
          exact ((ih g.next.2).cons _).trans List.perm_middle.symm

theorem map_snd_assigned (k : Nat) (batch : List Record) :
    (assigned (.sequential k) batch).map Prod.snd =
      (List.range' (k + 1) (unidentified batch)).map Guid.ofNat := by
  induction batch generalizing k with
  | nil => rfl
  | cons r batch ih =>
      cases hid : r.id with
      | some id => rw [assigned_cons_some hid, unidentified_cons_some hid, ih]
      | none =>
          rw [assigned_cons_none hid, unidentified_cons_none hid, List.range'_succ, List.map_cons,
            List.map_cons]
          exact congrArg (Guid.ofNat (k + 1) :: ·) (ih (k + 1))

theorem exists_of_mem_assigned {k : Nat} {batch : List Record} {i : String × Guid}
    (hi : i ∈ assigned (.sequential k) batch) :
    ∃ j, k < j ∧ j ≤ k + unidentified batch ∧ i.2 = Guid.ofNat j := by
  have hmem : i.2 ∈ (List.range' (k + 1) (unidentified batch)).map Guid.ofNat := by
    rw [← map_snd_assigned]
    exact List.mem_map_of_mem hi
  obtain ⟨j, hj, heq⟩ := List.mem_map.mp hmem
  rw [List.mem_range'_1] at hj
  exact ⟨j, by omega, by omega, heq.symm⟩

theorem nodup_assigned {k : Nat} {batch : List Record} (hcount : k + unidentified batch < 2 ^ 128) :
    (assigned (.sequential k) batch).Nodup := by
  refine List.Nodup.of_map Prod.snd ?_
  rw [map_snd_assigned]
  refine List.Nodup.map_on ?_ List.nodup_range'
  intro m hm n hn heq
  rw [List.mem_range'_1] at hm hn
  exact (Guid.ofNat_inj (by omega) (by omega)).mp heq

/-! ## The counter over a session -/

/-- All records of the batches of a session, accepted or not. -/
def submitted (actions : List Action) : List Record :=
  actions.flatMap fun
    | .seed batch => batch
    | _ => []

/-- The identities that the accepted batches of a session brought along. -/
def givenIn (transcript : List (Action × Answer)) : List (String × Guid) :=
  transcript.flatMap fun
    | (.seed batch, .seeded (some _)) => given batch
    | _ => []

/-- A ledger whose counter stands at `k` holds what was given and what the counter assigned. -/
structure Ledger.Counts (l : Ledger) (identities : List (String × Guid)) (k : Nat) : Prop where
  generator : l.generator = .sequential k
  of_mem_history : ∀ n id, (n, some id) ∈ l.history.map Record.identity →
    (n, id) ∈ identities ∨ ∃ j, 0 < j ∧ j ≤ k ∧ id = Guid.ofNat j
  mem_history : ∀ n id, (n, id) ∈ identities → (n, some id) ∈ l.history.map Record.identity

/-- An identity as a history has it. -/
def inHistory (i : String × Guid) : String × Option Guid := (i.1, some i.2)

theorem inHistory_injective : Function.Injective inHistory := by
  rintro ⟨n, id⟩ ⟨n', id'⟩ heq
  simpa [inHistory] using heq

theorem map_identity_identified (g : IdGenerator) (batch : List Record) :
    (identified g batch).map Record.identity =
      ((prepareAll g batch).1.map key).map inHistory := by
  rw [← map_snd_prepareAll, List.map_map, List.map_map]
  refine List.map_congr_left fun p hp ↦ ?_
  simp [key, inHistory, Record.identity, id_of_mem_prepareAll p hp]

theorem mem_map_identity_identified {g : IdGenerator} {batch : List Record} {n : String}
    {id : Guid} :
    (n, some id) ∈ (identified g batch).map Record.identity ↔
      (n, id) ∈ given batch ∨ (n, id) ∈ assigned g batch := by
  rw [← List.mem_append, ← (perm_given_assigned g batch).mem_iff, map_identity_identified]
  exact List.mem_map_of_injective inHistory_injective (a := (n, id))

theorem Ledger.step_fst_of_isRead {l : Ledger} {a : Action} (ha : a.isRead = true) :
    (l.step a).1.history = l.history ∧ (l.step a).1.generator = l.generator := by
  cases a with
  | seed batch => contradiction
  | snapshot | get n id | typeNames | scan n => exact ⟨rfl, rfl⟩
  | read i reading | scanSnapshot i n | advance i =>
      simp only [step]
      split <;> exact ⟨rfl, rfl⟩

theorem Ledger.history_seed (l : Ledger) (batch : List Record) :
    (l.seed batch).1.history = l.history ∨
      (l.seed batch).1.history = l.history ++ identified l.generator batch := by
  simp only [seed]
  split
  · exact .inr rfl
  · exact .inl rfl

namespace Ledger.Counts

variable {l : Ledger} {identities : List (String × Guid)} {k : Nat}

theorem seed (hl : l.Counts identities k) (batch : List Record) :
    (l.seed batch).1.Counts (identities ++ givenIn [(.seed batch, (l.seed batch).2)])
      (k + unidentified batch) := by
  have hgenerator : l.generator.skip (unidentified batch) =
      .sequential (k + unidentified batch) := by
    rw [hl.generator]
    rfl
  have hearlier : ∀ n id, (n, some id) ∈ l.history.map Record.identity →
      (n, id) ∈ identities ∨ ∃ j, 0 < j ∧ j ≤ k + unidentified batch ∧ id = Guid.ofNat j := by
    intro n id hmem
    obtain hmem | ⟨j, hpos, hle, rfl⟩ := hl.of_mem_history n id hmem
    · exact .inl hmem
    · exact .inr ⟨j, hpos, by omega, rfl⟩
  unfold Ledger.seed
  dsimp only
  split
  · have hgiven : ∀ stored, givenIn [(.seed batch, .seeded (some stored))] = given batch :=
      fun _ ↦ List.append_nil _
    rw [hgiven]
    refine ⟨hgenerator, fun n id hmem ↦ ?_, fun n id hmem ↦ ?_⟩
    · rw [List.map_append, List.mem_append, mem_map_identity_identified, hl.generator] at hmem
      rcases hmem with hmem | hmem | hmem
      · exact (hearlier n id hmem).imp_left (List.mem_append_left _)
      · exact .inl (List.mem_append_right _ hmem)
      · obtain ⟨j, hlt, hle, hid⟩ := exists_of_mem_assigned hmem
        exact .inr ⟨j, by omega, hle, hid⟩
    · rw [List.map_append, List.mem_append, mem_map_identity_identified]
      rcases List.mem_append.mp hmem with hmem | hmem
      · exact .inl (hl.mem_history n id hmem)
      · exact .inr (.inl hmem)
  · have hgiven : givenIn [(.seed batch, .seeded none)] = [] := rfl
    rw [hgiven, List.append_nil]
    exact ⟨hgenerator, hearlier, hl.mem_history⟩

theorem step (hl : l.Counts identities k) (a : Action) :
    (l.step a).1.Counts (identities ++ givenIn [(a, (l.step a).2)])
      (k + unidentified (submitted [a])) := by
  have hread : a.isRead = true → (l.step a).1.Counts identities k := by
    intro ha
    obtain ⟨hhistory, hgenerator⟩ := Ledger.step_fst_of_isRead (l := l) ha
    refine ⟨hgenerator.trans hl.generator, ?_, ?_⟩ <;> rw [hhistory]
    · exact hl.of_mem_history
    · exact hl.mem_history
  cases a with
  | seed batch =>
      have hsubmitted : submitted [.seed batch] = batch := List.append_nil _
      rw [hsubmitted]
      exact hl.seed batch
  | _ => simpa [givenIn, submitted, unidentified] using hread rfl

theorem after (hl : l.Counts identities k) (as : List Action) :
    (Store.after Ledger.step l as).Counts
      (identities ++ givenIn (as.zip (answers Ledger.step l as)))
      (k + unidentified (submitted as)) := by
  induction as generalizing l identities k with
  | nil => simpa [Store.after, givenIn, submitted, unidentified] using hl
  | cons a as ih =>
      have hgiven : givenIn ((a :: as).zip (answers Ledger.step l (a :: as))) =
          givenIn [(a, (l.step a).2)] ++ givenIn (as.zip (answers Ledger.step (l.step a).1 as)) :=
        @List.flatMap_append _ _ [_] _ _
      have hsubmitted : submitted (a :: as) = submitted [a] ++ submitted as :=
        @List.flatMap_append _ _ [_] _ _
      have hafter := ih (hl.step a)
      rw [hgiven, hsubmitted, unidentified, List.countP_append, ← List.append_assoc,
        ← Nat.add_assoc]
      exact hafter

end Ledger.Counts

theorem Ledger.counts_new (strict : Bool) : (Ledger.new (.sequential 0) strict).Counts [] 0 where
  generator := rfl
  of_mem_history := by simp [Ledger.new]
  mem_history := by simp

/-! ## Counting records -/

/-- A store has a record of a type for each of the identities it accepted. -/
theorem length_scan (h : History) (n : String) :
    (h.scan n).length = ((h.map Record.identity).toFinset.filter fun i ↦ i.1 = n).card := by
  have hscan : (h.scan n).map Record.identity =
      (firstOccurrences (h.map Record.identity)).filter fun i ↦ i.1 = n := by
    rw [← History.map_identity_current, List.filter_map]
    rfl
  have hnodup : ((h.scan n).map Record.identity).Nodup := by
    rw [hscan]
    exact (nodup_firstOccurrences _).filter _
  have hset : ((h.scan n).map Record.identity).toFinset =
      (h.map Record.identity).toFinset.filter fun i ↦ i.1 = n := by
    ext i
    simp [hscan, mem_firstOccurrences]
  rw [← hset, List.toFinset_card_of_nodup hnodup, List.length_map]

theorem countP_assigned (g : IdGenerator) (batch : List Record) (n : String) :
    ((assigned g batch).filter fun i ↦ i.1 = n).length =
      batch.countP fun r ↦ r.id.isNone && r.logicalName = n := by
  induction batch generalizing g with
  | nil => rfl
  | cons r batch ih =>
      cases hid : r.id with
      | some id => simp [assigned_cons_some hid, ih, hid]
      | none =>
          by_cases hn : r.logicalName = n <;> simp [assigned_cons_none hid, ih, hid, hn]

theorem toFinset_map_identity_identified (g : IdGenerator) (batch : List Record) :
    ((identified g batch).map Record.identity).toFinset =
      ((given batch).toFinset ∪ (assigned g batch).toFinset).image inHistory := by
  rw [map_identity_identified, ← List.toFinset_append,
    ← List.toFinset_eq_of_perm _ _ (perm_given_assigned g batch)]
  generalize (prepareAll g batch).1.map key = identities
  ext i
  simp

section

variable {h : History} {g : IdGenerator} {batch : List Record}
  (hfresh : ∀ i ∈ assigned g batch, inHistory i ∉ h.map Record.identity ∧ i ∉ given batch)

include hfresh

/-- What a batch adds of one type is what it gives and is new, and what is assigned to it. -/
theorem added_eq (n : String) :
    ((identified g batch).map Record.identity).toFinset.filter
        (fun i ↦ i.1 = n) \ (h.map Record.identity).toFinset.filter (fun i ↦ i.1 = n) =
      (((given batch).toFinset.filter fun i ↦ i.1 = n ∧ inHistory i ∉ h.map Record.identity) ∪
        (assigned g batch).toFinset.filter fun i ↦ i.1 = n).image inHistory := by
  rw [toFinset_map_identity_identified]
  ext i
  simp only [Finset.mem_sdiff, Finset.mem_filter, Finset.mem_image, Finset.mem_union,
    List.mem_toFinset]
  constructor
  · rintro ⟨⟨⟨j, hj, rfl⟩, hn⟩, hnotin⟩
    refine ⟨j, ?_, rfl⟩
    rcases hj with hj | hj
    · exact .inl ⟨hj, hn, fun hmem ↦ hnotin ⟨hmem, hn⟩⟩
    · exact .inr ⟨hj, hn⟩
  · rintro ⟨j, ⟨hj, hn, hnotin⟩ | ⟨hj, hn⟩, rfl⟩
    · exact ⟨⟨⟨j, .inl hj, rfl⟩, hn⟩, fun hmem ↦ hnotin hmem.1⟩
    · exact ⟨⟨⟨j, .inr hj, rfl⟩, hn⟩, fun hmem ↦ (hfresh j hj).1 hmem.1⟩

/-- Every record that needs an identifier makes its type one record larger. -/
theorem length_scan_append (hnodup : (assigned g batch).Nodup) (n : String) :
    (History.scan (h ++ identified g batch) n).length =
      (h.scan n).length +
        ((given batch).toFinset.filter fun i ↦ i.1 = n ∧
          inHistory i ∉ h.map Record.identity).card +
        batch.countP fun r ↦ r.id.isNone && r.logicalName = n := by
  have hdisjoint : Disjoint
      ((given batch).toFinset.filter fun i ↦ i.1 = n ∧ inHistory i ∉ h.map Record.identity)
      ((assigned g batch).toFinset.filter fun i ↦ i.1 = n) := by
    rw [Finset.disjoint_left]
    intro i hgiven hassigned
    rw [Finset.mem_filter, List.mem_toFinset] at hgiven hassigned
    exact (hfresh i hassigned.1).2 hgiven.1
  have hassigned : ((assigned g batch).toFinset.filter fun i ↦ i.1 = n).card =
      batch.countP fun r ↦ r.id.isNone && r.logicalName = n := by
    rw [← countP_assigned g, ← List.toFinset_card_of_nodup (hnodup.filter _), List.toFinset_filter]
    simp
  rw [length_scan, length_scan, List.map_append, List.toFinset_append, Finset.filter_union,
    Finset.union_comm, ← Finset.card_sdiff_add_card, added_eq hfresh,
    Finset.card_image_of_injective _ inHistory_injective, Finset.card_union_of_disjoint hdisjoint,
    hassigned]
  omega

end

/-! ## One more batch -/

namespace Session

/-- No stored record has this identity, and one record of the batch only. -/
def FreshIn (x : Session) (batch : List Record) (i : String × Guid) : Prop :=
  x.store.contents.get? i.1 i.2 = none ∧
    ((prepareAll x.store.generator batch).1.map key).count i = 1

namespace Matches

variable {x : Session} {l : Ledger} {identities : List (String × Guid)} {k : Nat}
  {batch : List Record}

theorem freshIn_iff (hx : x.Matches l) (hl : l.Counts identities k)
    (hcount : k + unidentified batch < 2 ^ 128) {i : String × Guid}
    (hi : i ∈ assigned x.store.generator batch) :
    x.FreshIn batch i ↔ i ∉ identities ++ given batch := by
  have hgenerator : x.store.generator = .sequential k := hx.generator.trans hl.generator
  rw [hgenerator] at hi
  have hstored : x.store.contents.get? i.1 i.2 = none ↔ i ∉ identities := by
    rw [hx.get?_eq_none_iff, not_iff_not]
    refine ⟨fun hmem ↦ (hl.of_mem_history _ _ hmem).resolve_right ?_, hl.mem_history _ _⟩
    rintro ⟨j, -, hle, heq⟩
    obtain ⟨j', hlt, hle', heq'⟩ := exists_of_mem_assigned hi
    have : j = j' := (Guid.ofNat_inj (by omega) (by omega)).mp (heq.symm.trans heq')
    omega
  have honce : ((prepareAll x.store.generator batch).1.map key).count i = 1 ↔ i ∉ given batch := by
    rw [(perm_given_assigned _ batch).count_eq, List.count_append, hgenerator,
      List.count_eq_one_of_mem (nodup_assigned hcount) hi, Nat.add_eq_right, List.count_eq_zero]
  rw [FreshIn, hstored, honce, List.mem_append, not_or]

theorem get?_seed_of_not_mem (hx : x.Matches l) {n : String} {id : Guid}
    (hgiven : (n, id) ∉ given batch) (hassigned : (n, id) ∉ assigned x.store.generator batch) :
    (x.seed batch).store.contents.get? n id = x.store.contents.get? n id := by
  have hseed := (hx.seed batch).2.contents.get?_eq n id
  rw [hx.contents.get?_eq]
  refine hseed.trans ?_
  rcases l.history_seed batch with heq | heq
  · rw [heq]
  · rw [heq]
    refine History.get?_append_of_not_mem ?_
    rw [mem_map_identity_identified, ← hx.generator, not_or]
    exact ⟨hgiven, hassigned⟩

theorem length_scan_seed (hx : x.Matches l) (hl : l.Counts identities k)
    (hcount : k + unidentified batch < 2 ^ 128)
    (hfresh : ∀ i ∈ assigned x.store.generator batch, i ∉ identities ++ given batch)
    (haccepts : x.Accepts batch) (n : String) :
    ((x.seed batch).store.contents.scan n).length =
      (x.store.contents.scan n).length +
        ((given batch).toFinset.filter fun i ↦ i.1 = n ∧
          (x.store.contents.get? i.1 i.2).isNone).card +
        batch.countP fun r ↦ r.id.isNone && r.logicalName = n := by
  obtain ⟨stored, hstored⟩ := haccepts
  obtain ⟨hanswer, hseed⟩ := hx.seed batch
  have hledger := Ledger.accepts_of_seed (hanswer.symm.trans hstored)
  have hhistory : (l.seed batch).1.history =
      l.history ++ identified l.generator batch := by
    simp only [Ledger.seed, if_pos hledger]
  have hnone : ∀ i : String × Guid, (x.store.contents.get? i.1 i.2).isNone = true ↔
      inHistory i ∉ l.history.map Record.identity := by
    intro i
    rw [Option.isNone_iff_eq_none, hx.get?_eq_none_iff]
    rfl
  rw [hx.generator] at hfresh
  have hnew : ∀ i ∈ assigned l.generator batch,
      inHistory i ∉ l.history.map Record.identity ∧ i ∉ given batch := by
    intro i hi
    obtain ⟨hstored, -⟩ := (hx.freshIn_iff hl hcount (hx.generator ▸ hi)).mpr (hfresh i hi)
    exact ⟨hx.get?_eq_none_iff.mp hstored, fun hmem ↦ hfresh i hi (List.mem_append_right _ hmem)⟩
  have hscan := (hseed.contents.scan_eq n)
  rw [hhistory] at hscan
  have hassigned : (assigned l.generator batch).Nodup := by
    rw [hl.generator]
    exact nodup_assigned hcount
  simp only [hnone, hx.contents.scan_eq]
  exact (congrArg List.length hscan).trans (length_scan_append hnew hassigned n)

end Matches

theorem exists_given_of_error {x : Session} {batch : List Record}
    (hfresh : ∀ i ∈ assigned x.store.generator batch, x.FreshIn batch i) {fault : Fault}
    (h : (x.store.seed batch).2.result = .error fault) :
    ∃ n id, (n, id) ∈ given batch ∧ fault = .duplicateSeed n id := by
  obtain ⟨-, p, hp, rfl⟩ := result_seed_eq_error_iff.mp h
  obtain ⟨earlier, later, heq, -, hrepeats⟩ := duplicate?_eq_some_iff.mp hp
  have hmem : key p ∈ (prepareAll x.store.generator batch).1.map key := by
    rw [heq]
    exact List.mem_map_of_mem (List.mem_append_right _ List.mem_cons_self)
  rw [(perm_given_assigned _ batch).mem_iff, List.mem_append] at hmem
  refine ⟨_, _, hmem.resolve_right fun hassigned ↦ ?_, rfl⟩
  obtain ⟨hstored, honce⟩ := hfresh _ hassigned
  rw [List.append_nil, List.mem_reverse] at hrepeats
  rcases hrepeats with hearlier | hisSome
  · rw [heq, List.map_append, List.map_cons, List.count_append, List.count_cons_self] at honce
    have hpos : 0 < (earlier.map key).count (key p) := List.count_pos_iff.mpr hearlier
    omega
  · rw [show x.store.contents.get? p.2.logicalName p.1 = none from hstored] at hisSome
    contradiction

/-- In every session the counter assigns the identifiers that follow on those assigned before,
whether these were stored or not. What is assigned is fresh exactly if no accepted batch before and
no record of the same batch gave that identity. Then no stored record is replaced, the store
refuses no record on its account, and every record that needed an identifier adds one to its
type. -/
theorem freshIn_iff_not_given (strict : Bool) (actions : List Action) (batch : List Record)
    (hcount : unidentified (submitted actions ++ batch) < 2 ^ 128) :
    let start := Session.new (.sequential 0) strict
    let x := after Session.step start actions
    let identities := givenIn (actions.zip (answers Session.step start actions)) ++ given batch
    (assigned x.store.generator batch).map Prod.snd =
      (List.range' (unidentified (submitted actions) + 1) (unidentified batch)).map Guid.ofNat ∧
    (∀ i ∈ assigned x.store.generator batch, x.FreshIn batch i ↔ i ∉ identities) ∧
    ((∀ i ∈ assigned x.store.generator batch, i ∉ identities) →
      (∀ n id r, x.store.contents.get? n id = some r → (n, id) ∉ given batch →
        (x.seed batch).store.contents.get? n id = some r) ∧
      (∀ fault, (x.store.seed batch).2.result = .error fault →
        ∃ n id, (n, id) ∈ given batch ∧ fault = .duplicateSeed n id) ∧
      (x.Accepts batch → ∀ n, ((x.seed batch).store.contents.scan n).length =
        (x.store.contents.scan n).length +
          ((given batch).toFinset.filter fun i ↦ i.1 = n ∧
            (x.store.contents.get? i.1 i.2).isNone).card +
          batch.countP fun r ↦ r.id.isNone && r.logicalName = n)) := by
  intro start x identities
  have hx := (matches_new (.sequential 0) strict).after actions
  have hl := (Ledger.counts_new strict).after actions
  rw [← (matches_new (.sequential 0) strict).answers_eq, List.nil_append, Nat.zero_add] at hl
  have hcount : unidentified (submitted actions) + unidentified batch < 2 ^ 128 := by
    rwa [unidentified, List.countP_append] at hcount
  have hgenerator : x.store.generator = .sequential (unidentified (submitted actions)) :=
    hx.generator.trans hl.generator
  refine ⟨?_, fun i hi ↦ hx.freshIn_iff hl hcount hi, fun hnotin ↦ ⟨?_, ?_, ?_⟩⟩
  · rw [hgenerator, map_snd_assigned]
  · intro n id r hr hgiven
    have hassigned : (n, id) ∉ assigned x.store.generator batch := by
      intro hi
      obtain ⟨hnone, -⟩ := (hx.freshIn_iff hl hcount hi).mpr (hnotin _ hi)
      rw [hr] at hnone
      contradiction
    rw [hx.get?_seed_of_not_mem hgiven hassigned, hr]
  · intro fault hfault
    exact exists_given_of_error
      (fun i hi ↦ (hx.freshIn_iff hl hcount hi).mpr (hnotin i hi)) hfault
  · intro haccepts n
    exact hx.length_scan_seed hl hcount hnotin haccepts n

theorem freshIn_iff_not_given_example :
    let noted : Record := ⟨"note", some (.ofNat 7), .empty⟩
    let note : Record := ⟨"note", none, .empty⟩
    let x := after Session.step (Session.new (.sequential 0) true) [.seed [noted, note]]
    unidentified (submitted [.seed [noted, note]] ++ [note]) < 2 ^ 128 ∧
      assigned x.store.generator [note] = [("note", .ofNat 2)] ∧
      x.FreshIn [note] ("note", .ofNat 2) := by
  intro noted note x
  have hassigned : assigned x.store.generator [note] = [("note", .ofNat 2)] := by decide
  have hmem : ("note", Guid.ofNat 2) ∈ assigned x.store.generator [note] := by
    rw [hassigned]
    exact List.mem_cons_self
  have hfresh := (freshIn_iff_not_given true [.seed [noted, note]] [note] (by decide)).2.1 _ hmem
  exact ⟨by decide, hassigned, hfresh.mpr (by decide)⟩

/-- A record brings the identifier along that the counter assigns next. -/
def collidingBatch : List Record :=
  [⟨"t", some (.ofNat 1), .ofList [("n", .number (.integer 1))]⟩,
    ⟨"t", none, .ofList [("n", .number (.integer 2))]⟩]

/-- The assigned identifier is the one that the batch gave: one of the two records is lost, and a
strict store refuses the batch. -/
theorem not_freshIn_collidingBatch :
    let x := Session.new (.sequential 0) false
    ("t", Guid.ofNat 1) ∈ assigned x.store.generator collidingBatch ∧
      ¬x.FreshIn collidingBatch ("t", .ofNat 1) ∧
      ((x.seed collidingBatch).store.contents.scan "t").length = 1 ∧
      ((Session.new (.sequential 0) true).store.seed collidingBatch).2.result =
        .error (.duplicateSeed "t" (.ofNat 1)) := by
  intro x
  refine ⟨by decide, ?_, rfl, rfl⟩
  rintro ⟨-, honce⟩
  revert honce
  decide

end Session

end Store

end OrgService
