import OrgService.Proofs.Store.Identities

/-!
# Strict stores

A store that refuses duplicates accepts a batch if its identities are distinct and new. Otherwise
the error names the first record in the batch whose identity was there before it, and nothing but
the generator has moved.
-/

namespace OrgService.Store

/-! ## The first duplicate of a batch -/

/-- The identities of a batch are distinct, and none of them is stored. -/
def FitsInto (s : Snapshot) (batch : List (Guid × Record)) : Prop :=
  (batch.map fun p ↦ p.2.identity).Nodup ∧ ∀ p ∈ batch, s.get? p.2.logicalName p.1 = none

/-- The identity of a record occurs earlier in its batch or is stored. -/
def Repeats (s : Snapshot) (earlier : List (Guid × Record)) (p : Guid × Record) : Prop :=
  p.2.identity ∈ earlier.map (fun q ↦ q.2.identity) ∨ ∃ r, s.get? p.2.logicalName p.1 = some r

/-- Steps that only read: everything but seeding. -/
def Action.isRead : Action → Bool
  | .seed _ => false
  | _ => true

def key (p : Guid × Record) : String × Guid := (p.2.logicalName, p.1)

theorem duplicate?_append (s : Snapshot) (seen : List (String × Guid))
    (xs ys : List (Guid × Record)) :
    duplicate? s seen (xs ++ ys) =
      (duplicate? s seen xs).or (duplicate? s ((xs.map key).reverse ++ seen) ys) := by
  induction xs generalizing seen with
  | nil => rfl
  | cons x xs ih =>
      simp only [List.cons_append, duplicate?, ih, List.map_cons, List.reverse_cons,
        List.append_assoc]
      split <;> rfl

/-- The duplicate that is found is the first one: what comes before it in the batch has none. -/
theorem duplicate?_eq_some_iff {s : Snapshot} {seen : List (String × Guid)} {p : Guid × Record}
    {batch : List (Guid × Record)} :
    duplicate? s seen batch = some p ↔
      ∃ earlier later, batch = earlier ++ p :: later ∧ duplicate? s seen earlier = none ∧
        (key p ∈ (earlier.map key).reverse ++ seen ∨
          (s.get? p.2.logicalName p.1).isSome = true) := by
  constructor
  · intro h
    induction batch generalizing seen with
    | nil => contradiction
    | cons q batch ih =>
        rw [duplicate?] at h
        split at h
        · rename_i hq
          obtain rfl := Option.some.inj h
          refine ⟨[], batch, rfl, rfl, ?_⟩
          simpa [key] using hq
        · rename_i hq
          obtain ⟨earlier, later, rfl, hearlier, hp⟩ := ih h
          refine ⟨q :: earlier, later, rfl, ?_, ?_⟩
          · rw [duplicate?, if_neg hq, hearlier]
          · simpa [key, or_assoc, or_comm, or_left_comm] using hp
  · rintro ⟨earlier, later, rfl, hearlier, hp⟩
    have hfound : ((((earlier.map key).reverse ++ seen).contains (key p)) ||
        (s.get? p.2.logicalName p.1).isSome) = true := by
      simpa using hp
    rw [duplicate?_append, hearlier, Option.none_or, duplicate?]
    exact if_pos hfound

/-! ## One batch -/

theorem mem_map_key_iff {earlier : List (Guid × Record)} {p : Guid × Record}
    (hids : ∀ q ∈ earlier, q.2.id = some q.1) (hp : p.2.id = some p.1) :
    key p ∈ earlier.map key ↔ p.2.identity ∈ earlier.map fun q ↦ q.2.identity := by
  have heq : ∀ q ∈ earlier, (key q = key p ↔ q.2.identity = p.2.identity) := by
    intro q hq
    simp [key, Record.identity, hids q hq, hp]
  simp only [List.mem_map]
  exact exists_congr fun q ↦ and_congr_right (heq q)

theorem result_seed_eq_error_iff {s : Store} {batch : List Record} {fault : Fault} :
    (s.seed batch).2.result = .error fault ↔
      s.rejectDuplicates = true ∧
        ∃ p, duplicate? s.contents [] (prepareAll s.generator batch).1 = some p ∧
          fault = .duplicateSeed p.2.logicalName p.1 := by
  simp only [seed]
  cases s.rejectDuplicates with
  | false => simp
  | true =>
      cases duplicate? s.contents [] (prepareAll s.generator batch).1 with
      | none => simp
      | some p => simp [eq_comm]

/-- A rejected batch moves the generator only. -/
theorem seed_fst_of_error {s : Store} {batch : List Record} {fault : Fault}
    (h : (s.seed batch).2.result = .error fault) :
    (s.seed batch).1 = { s with generator := s.generator.skip (unidentified batch) } := by
  rw [← snd_prepareAll]
  simp only [seed] at h ⊢
  split at h
  · rfl
  · contradiction

/-- A session over the same records, with the generator at another place. -/
def Session.withGenerator (x : Session) (g : IdGenerator) : Session :=
  { x with store := { x.store with generator := g } }

theorem Session.step_withGenerator {x : Session} {g : IdGenerator} {a : Action}
    (ha : a.isRead = true) :
    (x.withGenerator g).step a = ((x.step a).1.withGenerator g, (x.step a).2) := by
  cases a with
  | seed batch => contradiction
  | read i reading =>
      simp only [step, withGenerator]
      split <;> rfl
  | scanSnapshot i n =>
      simp only [step, withGenerator]
      split <;> rfl
  | advance i =>
      simp only [step, withGenerator]
      split <;> rfl
  | snapshot => rfl
  | get n id => rfl
  | typeNames => rfl
  | scan n => rfl

/-- No sequence of reads can tell where the generator stands. -/
theorem Session.answers_withGenerator {as : List Action} (has : ∀ a ∈ as, a.isRead = true)
    (x : Session) (g : IdGenerator) :
    answers Session.step (x.withGenerator g) as = answers Session.step x as := by
  induction as generalizing x with
  | nil => rfl
  | cons a as ih =>
      obtain ⟨ha, has⟩ := List.forall_mem_cons.mp has
      rw [answers, answers, Session.step_withGenerator ha, ih has]

theorem Session.accepts_iff {x : Session} {batch : List Record} :
    x.Accepts batch ↔ ∀ fault, (x.store.seed batch).2.result ≠ .error fault := by
  simp only [Accepts, step]
  cases (x.store.seed batch).2.result with
  | error fault => simp [Except.toOption]
  | ok stored => simp [Except.toOption]

namespace Session

namespace Matches

variable {x : Session} {l : Ledger}

theorem duplicate?_eq_none_iff_fitsInto (hx : x.Matches l) (hstrict : l.strict = true)
    {batch : List (Guid × Record)} (hids : ∀ p ∈ batch, p.2.id = some p.1) :
    duplicate? x.store.contents [] batch = none ↔ FitsInto x.store.contents batch := by
  have hnew : (∀ p ∈ batch, x.store.contents.get? p.2.logicalName p.1 = none) ↔
      ∀ p ∈ batch, p.2.identity ∉ l.history.map Record.identity := by
    refine forall₂_congr fun p hp ↦ ?_
    have hidentity : p.2.identity = (p.2.logicalName, some p.1) := Prod.ext rfl (hids p hp)
    rw [hx.get?_eq_none_iff, hidentity]
  have haccepts := hx.duplicate?_eq_none_iff hids
  rw [hx.strict, hstrict, if_pos rfl] at haccepts
  rw [haccepts, FitsInto, hnew, Ledger.Accepts, hstrict, List.map_append, List.nodup_append,
    List.map_map]
  constructor
  · intro h
    obtain ⟨-, hbatch, hdisjoint⟩ := h rfl
    exact ⟨hbatch, fun p hp hmem ↦ hdisjoint _ hmem _ (List.mem_map_of_mem hp) rfl⟩
  · rintro ⟨hbatch, hdisjoint⟩ -
    refine ⟨hx.unrepeated hstrict, hbatch, ?_⟩
    rintro i hi j hj rfl
    obtain ⟨p, hp, rfl⟩ := List.mem_map.mp hj
    exact hdisjoint p hp hi

theorem rejectDuplicates (hx : x.Matches l) (hstrict : l.strict = true) :
    x.store.rejectDuplicates = true := hx.strict.trans hstrict

theorem accepts_iff_fitsInto (hx : x.Matches l) (hstrict : l.strict = true)
    (batch : List Record) :
    x.Accepts batch ↔
      FitsInto x.store.contents (prepareAll x.store.generator batch).1 := by
  rw [accepts_iff, ← hx.duplicate?_eq_none_iff_fitsInto hstrict id_of_mem_prepareAll]
  constructor
  · intro h
    by_contra hfound
    obtain ⟨p, hp⟩ := Option.ne_none_iff_exists'.mp hfound
    exact h _ (result_seed_eq_error_iff.mpr ⟨hx.rejectDuplicates hstrict, p, hp, rfl⟩)
  · intro hnone fault hfault
    obtain ⟨-, p, hp, -⟩ := result_seed_eq_error_iff.mp hfault
    rw [hnone] at hp
    contradiction

theorem result_seed_eq_error_iff_repeats (hx : x.Matches l) (hstrict : l.strict = true)
    {batch : List Record} {fault : Fault} :
    (x.store.seed batch).2.result = .error fault ↔
      ∃ earlier p later, (prepareAll x.store.generator batch).1 = earlier ++ p :: later ∧
        FitsInto x.store.contents earlier ∧ Repeats x.store.contents earlier p ∧
        fault = .duplicateSeed p.2.logicalName p.1 := by
  have hids : ∀ p ∈ (prepareAll x.store.generator batch).1, p.2.id = some p.1 :=
    id_of_mem_prepareAll
  -- On a prepared batch, what the search for duplicates tests is what repeating means.
  have hsplit : ∀ earlier p later,
      (prepareAll x.store.generator batch).1 = earlier ++ p :: later →
        ((duplicate? x.store.contents [] earlier = none ∧
          (key p ∈ (earlier.map key).reverse ++ [] ∨
            (x.store.contents.get? p.2.logicalName p.1).isSome = true)) ↔
          FitsInto x.store.contents earlier ∧ Repeats x.store.contents earlier p) := by
    intro earlier p later heq
    rw [heq] at hids
    obtain ⟨hearlier, hrest⟩ := List.forall_mem_append.mp hids
    have hp := hrest p List.mem_cons_self
    rw [hx.duplicate?_eq_none_iff_fitsInto hstrict hearlier, Repeats, List.append_nil,
      List.mem_reverse, mem_map_key_iff hearlier hp, Option.isSome_iff_exists]
  rw [result_seed_eq_error_iff, hx.rejectDuplicates hstrict]
  simp only [duplicate?_eq_some_iff, true_and]
  constructor
  · rintro ⟨p, ⟨earlier, later, heq, hp⟩, rfl⟩
    obtain ⟨hfits, hrepeats⟩ := (hsplit earlier p later heq).mp hp
    exact ⟨earlier, p, later, heq, hfits, hrepeats, rfl⟩
  · rintro ⟨earlier, p, later, heq, hfits, hrepeats, rfl⟩
    exact ⟨p, ⟨earlier, later, heq, (hsplit earlier p later heq).mpr ⟨hfits, hrepeats⟩⟩, rfl⟩

/-- What a strict session stores under an identity stays there. -/
theorem get?_after (hx : x.Matches l) (hstrict : l.strict = true) (later : List Action)
    {n : String} {id : Guid} {r : Record} (hr : x.store.contents.get? n id = some r) :
    (Store.after Session.step x later).store.contents.get? n id = some r := by
  have hafter := hx.after later
  have hnodup := hafter.unrepeated ((Ledger.strict_after l later).trans hstrict)
  rw [hx.contents.get?_eq] at hr
  rw [hafter.contents.get?_eq, Ledger.history_after]
  rw [Ledger.history_after] at hnodup
  exact History.get?_append_of_nodup hnodup hr

end Matches

theorem seed_of_not_accepts {x : Session} {batch : List Record} (h : ¬x.Accepts batch) :
    x.seed batch = x.withGenerator (x.store.generator.skip (unidentified batch)) := by
  rw [accepts_iff, not_forall] at h
  obtain ⟨fault, hfault⟩ := h
  rw [seed, step, seed_fst_of_error (not_ne_iff.mp hfault), withGenerator]

/-- In every session over a strict store, a batch with its identifiers filled in is accepted if
its identities are distinct and new. The error of a rejected one names the first record whose
identity was there before it; the generator moves by the identifiers filled in, and every read
afterwards answers as before. So no identity is accepted twice, and what is stored stays as it
is. -/
theorem strict_allOrNothing (generator : IdGenerator) (actions : List Action)
    (batch : List Record) :
    let x := after Session.step (Session.new generator true) actions
    let prepared := (prepareAll x.store.generator batch).1
    (prepared.map Prod.snd = identified x.store.generator batch ∧
      ∀ p ∈ prepared, p.2.id = some p.1) ∧
    (x.Accepts batch ↔ FitsInto x.store.contents prepared) ∧
    (∀ fault, (x.store.seed batch).2.result = .error fault ↔
      ∃ earlier p later, prepared = earlier ++ p :: later ∧ FitsInto x.store.contents earlier ∧
        Repeats x.store.contents earlier p ∧ fault = .duplicateSeed p.2.logicalName p.1) ∧
    (¬x.Accepts batch →
      x.seed batch = x.withGenerator (x.store.generator.skip (unidentified batch)) ∧
        ∀ reads : List Action, (∀ a ∈ reads, a.isRead = true) →
          answers Session.step (x.seed batch) reads = answers Session.step x reads) ∧
    ((accepted (answers Session.step (Session.new generator true) actions)).map
      Record.identity).Nodup ∧
    ∀ later n id r, x.store.contents.get? n id = some r →
      (after Session.step x later).store.contents.get? n id = some r := by
  intro x prepared
  have hstrict : ∀ as, (after Ledger.step (Ledger.new generator true) as).strict = true :=
    Ledger.strict_after _
  have hx := (matches_new generator true).after actions
  refine ⟨⟨map_snd_prepareAll _ batch, id_of_mem_prepareAll⟩,
    hx.accepts_iff_fitsInto (hstrict _) batch,
    fun fault ↦ hx.result_seed_eq_error_iff_repeats (hstrict _), fun hrejected ↦ ?_, ?_,
    fun later n id r hr ↦ hx.get?_after (hstrict _) later hr⟩
  · rw [seed_of_not_accepts hrejected]
    exact ⟨rfl, fun reads hreads ↦ answers_withGenerator hreads x _⟩
  · have hnodup := hx.unrepeated (hstrict _)
    rw [Ledger.history_after, Ledger.new, List.nil_append] at hnodup
    rwa [(matches_new generator true).answers_eq]

theorem strict_allOrNothing_example :
    let account : Record := ⟨"account", some (.ofNat 1), .empty⟩
    let contact : Record := ⟨"contact", none, .empty⟩
    let x := after Session.step (Session.new (.sequential 0) true) [.seed [account]]
    let reads := [.typeNames, .scan "contact", .advance 0, .get "account" (.ofNat 1)]
    ¬x.Accepts [contact, account] ∧
      (x.store.seed [contact, account]).2.result =
        .error (.duplicateSeed "account" (.ofNat 1)) ∧
      answers Session.step (x.seed [contact, account]) reads = answers Session.step x reads := by
  intro account contact x reads
  obtain ⟨-, -, hfaults, hunread, -⟩ :=
    strict_allOrNothing (.sequential 0) [.seed [account]] [contact, account]
  have hfault := (hfaults (.duplicateSeed "account" (.ofNat 1))).mpr
    ⟨[(.ofNat 1, { contact with id := some (.ofNat 1) })], (.ofNat 1, account), [], rfl,
      ⟨List.nodup_singleton _, List.forall_mem_singleton.mpr rfl⟩, .inr ⟨account, rfl⟩, rfl⟩
  have hrejected : ¬x.Accepts [contact, account] := by
    rintro ⟨stored, hstored⟩
    have hanswer : (x.step (.seed [contact, account])).2 = .seeded none := rfl
    exact nomatch Answer.seeded.inj (hanswer.symm.trans hstored)
  exact ⟨hrejected, hfault, (hunread hrejected).2 reads (by decide)⟩

end Session

end OrgService.Store
