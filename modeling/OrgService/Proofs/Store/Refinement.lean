import Mathlib.Data.List.Forall2
import OrgService.Proofs.Store.Contents
import OrgService.Proofs.Store.Session
import OrgService.Proofs.Trace

/-!
# A store refines its history

Whatever a session answers, its ledger answers too: the tables of the store always reflect the
current records of the history, those of a snapshot the history at the time it was taken.
-/

namespace OrgService

/-! ## Identifiers of batches -/

namespace Store

variable {g : IdGenerator} {r : Record} {batch : List Record} {id : Guid}

theorem skip_next (g : IdGenerator) (count : Nat) : g.next.2.skip count = g.skip (count + 1) := by
  rw [IdGenerator.skip, IdGenerator.skip, Nat.add_comm count, ← Nat.add_assoc]
  rfl

theorem prepareAll_cons_some (hid : r.id = some id) :
    prepareAll g (r :: batch) = ((id, r) :: (prepareAll g batch).1, (prepareAll g batch).2) := by
  simp [prepareAll, prepare, hid]

theorem prepareAll_cons_none (hid : r.id = none) :
    prepareAll g (r :: batch) =
      ((g.next.1, { r with id := some g.next.1 }) :: (prepareAll g.next.2 batch).1,
        (prepareAll g.next.2 batch).2) := by
  simp [prepareAll, prepare, hid]

theorem unidentified_cons_some (hid : r.id = some id) :
    unidentified (r :: batch) = unidentified batch := by
  simp [unidentified, hid]

theorem unidentified_cons_none (hid : r.id = none) :
    unidentified (r :: batch) = unidentified batch + 1 := by
  simp [unidentified, hid]

theorem identified_cons_some (hid : r.id = some id) :
    identified g (r :: batch) = r :: identified g batch := by
  have hcount : ∀ i, unidentified ((r :: batch).take (i + 1)) = unidentified (batch.take i) :=
    fun _ ↦ unidentified_cons_some hid
  rw [identified, List.mapIdx_cons]
  simp only [hcount, hid]
  rw [Option.getD_some, ← hid]
  rfl

theorem identified_cons_none (hid : r.id = none) :
    identified g (r :: batch) = { r with id := some g.next.1 } :: identified g.next.2 batch := by
  have hcount : ∀ i, g.handed + unidentified ((r :: batch).take (i + 1)) =
      g.next.2.handed + unidentified (batch.take i) := by
    intro i
    rw [List.take_succ_cons, unidentified_cons_none hid, Nat.add_comm _ 1, ← Nat.add_assoc]
    rfl
  rw [identified, List.mapIdx_cons]
  simp only [hcount, hid]
  rfl

theorem identified_append (g : IdGenerator) (first second : List Record) :
    identified g (first ++ second) =
      identified g first ++ identified (g.skip (unidentified first)) second := by
  induction first generalizing g with
  | nil => rfl
  | cons r first ih =>
      rw [List.cons_append]
      cases hid : r.id with
      | some id =>
          rw [identified_cons_some hid, identified_cons_some hid, ih, unidentified_cons_some hid,
            List.cons_append]
      | none =>
          rw [identified_cons_none hid, identified_cons_none hid, ih, unidentified_cons_none hid,
            List.cons_append, skip_next]

/-- What a store makes of a batch is the batch with its identifiers. -/
theorem map_snd_prepareAll (g : IdGenerator) (batch : List Record) :
    (prepareAll g batch).1.map Prod.snd = identified g batch := by
  induction batch generalizing g with
  | nil => rfl
  | cons r batch ih =>
      cases hid : r.id with
      | some id => rw [prepareAll_cons_some hid, identified_cons_some hid, List.map_cons, ih]
      | none => rw [prepareAll_cons_none hid, identified_cons_none hid, List.map_cons, ih]

theorem snd_prepareAll (g : IdGenerator) (batch : List Record) :
    (prepareAll g batch).2 = g.skip (unidentified batch) := by
  induction batch generalizing g with
  | nil => rfl
  | cons r batch ih =>
      cases hid : r.id with
      | some id => rw [prepareAll_cons_some hid, unidentified_cons_some hid, ih]
      | none => rw [prepareAll_cons_none hid, unidentified_cons_none hid, ih, skip_next]

end Store

/-! ## Accepting batches -/

theorem History.isSome_get?_iff {h : History} {n : String} {id : Guid} :
    (h.get? n id).isSome = true ↔ (n, some id) ∈ h.map Record.identity := by
  rw [← mem_firstOccurrences, ← map_identity_current, History.get?, List.find?_isSome,
    List.mem_map]
  simp

namespace Store

theorem id_prepare (g : IdGenerator) (r : Record) :
    (prepare g r).1.2.id = some (prepare g r).1.1 := by
  unfold prepare
  split
  · assumption
  · rfl

theorem id_of_mem_prepareAll {g : IdGenerator} {records : List Record} :
    ∀ p ∈ (prepareAll g records).1, p.2.id = some p.1 := by
  induction records generalizing g with
  | nil => simp [prepareAll]
  | cons r records ih => exact List.forall_mem_cons.mpr ⟨id_prepare g r, ih⟩

/-- A batch repeats no identity if the identities taken before it and its own ones differ. -/
theorem duplicate?_eq_none_iff {s : Snapshot} {batch : List (Guid × Record)}
    (hids : ∀ p ∈ batch, p.2.id = some p.1) {seen : List (String × Guid)}
    {taken : List (String × Option Guid)} (hnodup : taken.Nodup)
    (htaken : ∀ n id, (seen.contains (n, id) || (s.get? n id).isSome) = true ↔
      (n, some id) ∈ taken) :
    duplicate? s seen batch = none ↔
      (taken ++ batch.map fun p ↦ p.2.identity).Nodup := by
  induction batch generalizing seen taken with
  | nil => simp [duplicate?, hnodup]
  | cons p batch ih =>
      obtain ⟨id, r⟩ := p
      obtain ⟨hid, hids⟩ := List.forall_mem_cons.mp hids
      have hidentity : r.identity = (r.logicalName, some id) := Prod.ext rfl hid
      rw [duplicate?, List.map_cons]
      by_cases hmem : r.identity ∈ taken
      · rw [if_pos ((htaken _ _).mpr (hidentity ▸ hmem))]
        simp only [reduceCtorEq, false_iff]
        intro hall
        exact (List.nodup_append.mp hall).2.2 _ hmem _ List.mem_cons_self rfl
      · rw [if_neg (fun h ↦ hmem (hidentity ▸ (htaken _ _).mp h)), List.append_cons]
        refine ih hids (List.nodup_append.mpr ⟨hnodup, List.nodup_singleton _, ?_⟩) ?_
        · rintro i hi j hj rfl
          exact hmem (List.mem_singleton.mp hj ▸ hi)
        · intro n id'
          rw [List.mem_append, ← htaken, List.mem_singleton, hidentity]
          simp only [List.contains_cons, Bool.or_eq_true, beq_iff_eq, Prod.mk.injEq,
            Option.some.injEq]
          tauto

end Store

/-! ## Lists side by side -/

variable {α β : Type} {R : α → β → Prop} {xs : List α} {ys : List β}

theorem forall₂_getElem? (h : List.Forall₂ R xs ys) (i : Nat) :
    (xs[i]? = none ∧ ys[i]? = none) ∨ ∃ x y, xs[i]? = some x ∧ ys[i]? = some y ∧ R x y := by
  induction h generalizing i with
  | nil => exact .inl ⟨rfl, rfl⟩
  | cons hxy _ ih =>
      cases i with
      | zero => exact .inr ⟨_, _, rfl, rfl, hxy⟩
      | succ i => exact ih i

theorem forall₂_set (h : List.Forall₂ R xs ys) (i : Nat) {x : α} {y : β} (hxy : R x y) :
    List.Forall₂ R (xs.set i x) (ys.set i y) := by
  induction h generalizing i with
  | nil => exact .nil
  | cons hhead htail ih =>
      cases i with
      | zero => exact .cons hxy htail
      | succ i => exact .cons hhead (ih i)

theorem forall₂_concat (h : List.Forall₂ R xs ys) {x : α} {y : β} (hxy : R x y) :
    List.Forall₂ R (xs ++ [x]) (ys ++ [y]) :=
  List.rel_append h (.cons hxy .nil)

/-! ## One step -/

structure View.Matches (v : View) (h : History) : Prop where
  reflects : v.contents.Reflects h.current
  sound : v.Sound

/-- Views answer as their histories do, and remembering changes nothing about them. -/
theorem View.Matches.read {v : View} {h : History} (hv : v.Matches h) (reading : Store.Reading) :
    (v.read reading).2 = h.read reading ∧ (v.read reading).1.Matches h := by
  cases reading with
  | get n id => exact ⟨congrArg Store.Answer.record (hv.reflects.get?_eq n id), hv⟩
  | scan n => exact ⟨congrArg Store.Answer.records (hv.reflects.scan_eq n), hv⟩
  | hasType n => exact ⟨congrArg Store.Answer.truth (propext hv.reflects.hasType_iff), hv⟩
  | attributes n =>
      constructor
      · apply congrArg Store.Answer.names
        rw [hv.sound.knownAttributes_eq]
        exact Set.ext fun a ↦ hv.reflects.mem_knownAttributes_iff
      · exact ⟨by simpa [View.read] using hv.reflects, hv.sound.knownAttributes n⟩

namespace Store

/-- A scan stands where its mark says. -/
inductive Cursor.Matches : Cursor → Mark → Prop
  | pending {n : String} : Matches ⟨none, .pending n⟩ (.pending none n)
  | pendingFixed {s : Snapshot} {h : History} {n : String} (hs : s.Reflects h.current) :
      Matches ⟨some s, .pending n⟩ (.pending (some h) n)
  | begun {fixed : Option Snapshot} {settled : List Record} {handed : Nat} :
      Matches ⟨fixed, .underway (settled.drop handed)⟩ (.begun settled handed)

/-- What a scan hands out is next by its mark. -/
theorem Cursor.Matches.advance {c : Cursor} {m : Mark} (hc : c.Matches m) {s : Snapshot}
    {h : History} (hs : s.Reflects h.current) :
    (c.scan.advance (c.fixed.getD s)).1 = (m.advance h).2 ∧
      Matches ⟨c.fixed, (c.scan.advance (c.fixed.getD s)).2⟩ (m.advance h).1 := by
  -- Whether it reads the store or fixed contents, a scan begins in the same way.
  have hbegin : ∀ {s : Snapshot} {h : History} (fixed : Option Snapshot) (n : String),
      s.Reflects h.current → (s.scan n).head? = (h.scan n)[0]? ∧
        Matches ⟨fixed, .underway (s.scan n).tail⟩ (.begun (h.scan n) 1) := by
    intro s h fixed n hs
    rw [hs.scan_eq, List.head?_eq_getElem?, ← List.drop_one]
    exact ⟨rfl, .begun⟩
  cases hc with
  | pending => exact hbegin none _ hs
  | pendingFixed hfixed => exact hbegin (some _) _ hfixed
  | begun =>
      refine ⟨List.head?_drop, ?_⟩
      simp only [Scan.advance, Scan.remaining, List.tail_drop]
      exact .begun

/-- A session is where its ledger says. -/
structure Session.Matches (x : Session) (l : Ledger) : Prop where
  strict : x.store.rejectDuplicates = l.strict
  generator : x.store.generator = l.generator
  contents : x.store.contents.Reflects l.history.current
  unrepeated : l.strict = true → (l.history.map Record.identity).Nodup
  views : List.Forall₂ View.Matches x.views l.snapshots
  cursors : List.Forall₂ Cursor.Matches x.cursors l.marks

namespace Session.Matches

variable {x : Session} {l : Ledger}

/-- The store looks for duplicates where the ledger looks for repeated identities. -/
theorem duplicate?_eq_none_iff (hx : x.Matches l) {batch : List (Guid × Record)}
    (hids : ∀ p ∈ batch, p.2.id = some p.1) :
    (if x.store.rejectDuplicates then duplicate? x.store.contents [] batch else none) = none ↔
      l.Accepts (batch.map Prod.snd) := by
  unfold Ledger.Accepts
  rw [hx.strict]
  cases hstrict : l.strict with
  | false => simp
  | true =>
      have htaken : ∀ n id, (([] : List (String × Guid)).contains (n, id) ||
          (x.store.contents.get? n id).isSome) = true ↔
            (n, some id) ∈ l.history.map Record.identity := by
        intro n id
        rw [← History.isSome_get?_iff, hx.contents.get?_eq]
        rfl
      rw [if_pos rfl, Store.duplicate?_eq_none_iff hids (hx.unrepeated hstrict) htaken]
      simp [Function.comp_def]

theorem seed (hx : x.Matches l) (batch : List Record) :
    (x.step (.seed batch)).2 = (l.seed batch).2 ∧
      (x.step (.seed batch)).1.Matches (l.seed batch).1 := by
  have hids : ∀ p ∈ (prepareAll x.store.generator batch).1, p.2.id = some p.1 :=
    id_of_mem_prepareAll
  have haccepts := hx.duplicate?_eq_none_iff hids
  simp only [step, Store.seed, Ledger.seed]
  rw [← hx.generator, ← map_snd_prepareAll, ← snd_prepareAll]
  by_cases h : l.Accepts ((prepareAll x.store.generator batch).1.map Prod.snd)
  · rw [if_pos h]
    simp only [haccepts.mpr h]
    refine ⟨rfl, hx.strict, rfl, hx.contents.publish hids, h, hx.views, hx.cursors⟩
  · obtain ⟨p, hp⟩ := Option.ne_none_iff_exists'.mp fun hnone ↦ h (haccepts.mp hnone)
    rw [if_neg h]
    simp only [hp]
    exact ⟨rfl, hx.strict, rfl, hx.contents, hx.unrepeated, hx.views, hx.cursors⟩

theorem step (hx : x.Matches l) (a : Action) :
    (x.step a).2 = (l.step a).2 ∧ (x.step a).1.Matches (l.step a).1 := by
  cases a with
  | seed batch => exact hx.seed batch
  | snapshot =>
      exact ⟨rfl, { hx with
        views := forall₂_concat hx.views ⟨hx.contents, View.sound_ofContents _⟩ }⟩
  | read i reading =>
      rcases forall₂_getElem? hx.views i with ⟨hv, hh⟩ | ⟨v, h, hv, hh, hvh⟩
      · simp only [Session.step, Ledger.step, hv, hh]
        exact ⟨trivial, hx⟩
      · obtain ⟨hanswer, hread⟩ := hvh.read reading
        have hviews := forall₂_set hx.views i hread
        -- Only the view changes, as it may remember more; its history stays in place.
        obtain ⟨hi, rfl⟩ := List.getElem?_eq_some_iff.mp hh
        rw [List.set_getElem_self] at hviews
        simp only [Session.step, Ledger.step, hv, hh]
        exact ⟨hanswer, { hx with views := hviews }⟩
  | get n id => exact ⟨congrArg Answer.record (hx.contents.get?_eq n id), hx⟩
  | typeNames =>
      exact ⟨congrArg Answer.names (Set.ext fun _ ↦ hx.contents.mem_types_iff), hx⟩
  | scan n => exact ⟨rfl, { hx with cursors := forall₂_concat hx.cursors .pending }⟩
  | scanSnapshot i n =>
      rcases forall₂_getElem? hx.views i with ⟨hv, hh⟩ | ⟨v, h, hv, hh, hvh⟩
      · simp only [Session.step, Ledger.step, hv, hh]
        exact ⟨trivial, hx⟩
      · simp only [Session.step, Ledger.step, hv, hh]
        exact ⟨trivial, { hx with
          cursors := forall₂_concat hx.cursors (.pendingFixed hvh.reflects) }⟩
  | advance i =>
      rcases forall₂_getElem? hx.cursors i with ⟨hc, hm⟩ | ⟨c, m, hc, hm, hcm⟩
      · simp only [Session.step, Ledger.step, hc, hm]
        exact ⟨trivial, hx⟩
      · obtain ⟨hanswer, hadvance⟩ := hcm.advance hx.contents
        simp only [Session.step, Ledger.step, hc, hm]
        exact ⟨congrArg Answer.record hanswer, { hx with
          cursors := forall₂_set hx.cursors i hadvance }⟩

end Session.Matches

/-! ## Batch boundaries -/

theorem Ledger.accepts_of_seed {l : Ledger} {batch stored : List Record}
    (h : (l.seed batch).2 = .seeded (some stored)) :
    l.Accepts (identified l.generator batch) := by
  by_contra hrejected
  simp [Ledger.seed, if_neg hrejected] at h

/-- Two batches that are accepted one after the other are as good as one. -/
theorem Ledger.seed_append {l : Ledger} {first second stored stored' : List Record}
    (hfirst : (l.seed first).2 = .seeded (some stored))
    (hsecond : ((l.seed first).1.seed second).2 = .seeded (some stored')) :
    (l.seed (first ++ second)).1 = ((l.seed first).1.seed second).1 := by
  have haccepted := accepts_of_seed hsecond
  have hseed : (l.seed first).1 = { l with
      generator := l.generator.skip (unidentified first)
      history := l.history ++ identified l.generator first } := by
    simp only [Ledger.seed, if_pos (accepts_of_seed hfirst)]
  have hboth : l.Accepts (identified l.generator (first ++ second)) := by
    rw [hseed] at haccepted
    rw [identified_append, Accepts, ← List.append_assoc]
    exact haccepted
  have hcount : unidentified (first ++ second) = unidentified first + unidentified second :=
    List.countP_append
  rw [seed, if_pos hboth, seed, if_pos haccepted, hseed, identified_append, hcount,
    List.append_assoc, IdGenerator.skip, ← Nat.add_assoc]
  rfl

/-! ## Whole sessions -/

section

variable {σ τ : Type} {step : σ → Action → σ × Answer} {step' : τ → Action → τ × Answer}
  {R : σ → τ → Prop} {x : σ} {y : τ}

theorem answers_eq
    (hstep : ∀ x y a, R x y → (step x a).2 = (step' y a).2 ∧ R (step x a).1 (step' y a).1)
    (h : R x y) (as : List Action) : answers step x as = answers step' y as := by
  induction as generalizing x y with
  | nil => rfl
  | cons a as ih =>
      obtain ⟨hanswer, hnext⟩ := hstep x y a h
      rw [answers, answers, hanswer, ih hnext]

theorem after_rel
    (hstep : ∀ x y a, R x y → (step x a).2 = (step' y a).2 ∧ R (step x a).1 (step' y a).1)
    (h : R x y) (as : List Action) : R (after step x as) (after step' y as) := by
  induction as generalizing x y with
  | nil => exact h
  | cons a as ih => exact ih (hstep x y a h).2

end

namespace Session

theorem matches_new (generator : IdGenerator) (strict : Bool) :
    (Session.new generator strict).Matches (Ledger.new generator strict) where
  strict := rfl
  generator := rfl
  contents := Snapshot.reflects_empty
  unrepeated := fun _ ↦ List.nodup_nil
  views := .nil
  cursors := .nil

theorem Matches.answers_eq {x : Session} {l : Ledger} (hx : x.Matches l) (as : List Action) :
    answers Session.step x as = answers Ledger.step l as :=
  Store.answers_eq (fun _ _ a hx ↦ hx.step a) hx as

theorem Matches.after {x : Session} {l : Ledger} (hx : x.Matches l) (as : List Action) :
    (after Session.step x as).Matches (after Ledger.step l as) :=
  after_rel (fun _ _ a hx ↦ hx.step a) hx as

/-- The answers of every session are those of its ledger, so that snapshots and scans read the
history as it was when they were made. Where one accepted batch ends and the next one begins does
not matter. -/
theorem answers_eq_ledger (generator : IdGenerator) (strict : Bool) :
    (∀ actions, answers Session.step (Session.new generator strict) actions =
      answers Ledger.step (Ledger.new generator strict) actions) ∧
    ∀ earlier first second later x, x = after Session.step (Session.new generator strict) earlier →
      x.Accepts first → (x.seed first).Accepts second →
      answers Session.step ((x.seed first).seed second) later =
        answers Session.step (x.seed (first ++ second)) later := by
  constructor
  · exact (matches_new generator strict).answers_eq
  · rintro earlier first second later x rfl ⟨stored, hfirst⟩ ⟨stored', hsecond⟩
    have hx := (matches_new generator strict).after earlier
    obtain ⟨hanswer, honce⟩ := hx.seed first
    obtain ⟨hanswer', htwice⟩ := honce.seed second
    exact (htwice.answers_eq later).trans ((Ledger.seed_append (hanswer.symm.trans hfirst)
      (hanswer'.symm.trans hsecond)) ▸ ((hx.seed (first ++ second)).2.answers_eq later).symm)

/-- Two accounts get identifiers, and the later version of a contact takes the place of the first.
A scan that began before a third account was seeded does not come to it. -/
theorem answers_eq_ledger_example :
    let account : Record := ⟨"account", none, OrderedMap.ofList [("name", .text "Acme")]⟩
    let numbered (n : Nat) : Record := { account with id := some (.ofNat n) }
    let contact (phone : Value) : Record :=
      ⟨"contact", some (.ofNat 7), OrderedMap.ofList [("phone", phone)]⟩
    let first := [contact .null, account]
    let second := [account, contact (.text "555")]
    let later := [.get "account" (.ofNat 1), .get "contact" (.ofNat 7), .scan "account",
      .advance 0, .seed [account], .advance 0, .advance 0, .typeNames]
    let told := [.record (some (numbered 1)), .record (some (contact (.text "555"))), .done,
      .record (some (numbered 1)), .seeded (some [numbered 3]), .record (some (numbered 2)),
      .record none, .names {n | n ∈ ["contact", "account"]}]
    let x := Session.new (.sequential 0) false
    x.Accepts first ∧ (x.seed first).Accepts second ∧
      answers Session.step (x.seed (first ++ second)) later = told ∧
      answers Session.step ((x.seed first).seed second) later = told ∧
      answers Ledger.step (Ledger.new (.sequential 0) false) (.seed (first ++ second) :: later) =
        .seeded (some [contact .null, numbered 1, numbered 2, contact (.text "555")]) :: told := by
  intro account numbered contact first second later told x
  have hfirst : x.Accepts first := ⟨_, rfl⟩
  have hsecond : (x.seed first).Accepts second := ⟨_, rfl⟩
  have htold : answers Session.step (x.seed (first ++ second)) later = told := rfl
  obtain ⟨hledger, hbatches⟩ := answers_eq_ledger (.sequential 0) false
  refine ⟨hfirst, hsecond, htold, ?_, ?_⟩
  · rw [hbatches [] first second later x rfl hfirst hsecond, htold]
  · rw [← hledger, answers, ← htold]
    rfl

end Session

end Store

end OrgService
