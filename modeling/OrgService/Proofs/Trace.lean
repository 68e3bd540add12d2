import OrgService.Log.Entry

/-!
# Results of traced operations

A composed operation succeeds if its parts do, and then its result is composed of theirs.
-/

namespace OrgService

instance decidableEqOk {ε α : Type} [DecidableEq α] :
    (x : Except ε α) → (a : α) → Decidable (x = .ok a)
  | .ok b, a => decidable_of_iff (b = a) (by simp)
  | .error _, _ => isFalse (by simp)

theorem bind_eq_ok_iff {ε α β : Type} {x : Except ε α} {f : α → Except ε β} {b : β} :
    x >>= f = .ok b ↔ ∃ a, x = .ok a ∧ f a = .ok b := by
  cases x <;> simp [bind, Except.bind]

theorem bind_eq_error_iff {ε α β : Type} {x : Except ε α} {f : α → Except ε β} {e : ε} :
    x >>= f = .error e ↔ x = .error e ∨ ∃ a, x = .ok a ∧ f a = .error e := by
  cases x <;> simp [bind, Except.bind]

theorem map_eq_ok_iff {ε α β : Type} {x : Except ε α} {f : α → β} {b : β} :
    x.map f = .ok b ↔ ∃ a, x = .ok a ∧ f a = b := by
  cases x <;> simp [Except.map]

theorem map_eq_error_iff {ε α β : Type} {x : Except ε α} {f : α → β} {e : ε} :
    x.map f = .error e ↔ x = .error e := by
  cases x <;> simp [Except.map]

theorem map_bind_eq {ε α β γ : Type} (x : Except ε α) (f : α → Except ε β) (g : β → γ) :
    (x >>= f).map g = x >>= fun a ↦ (f a).map g := by
  cases x <;> rfl

@[simp] theorem mapError_ok {ε ε' α : Type} (f : ε → ε') (a : α) :
    (Except.ok a).mapError f = .ok a := rfl

@[simp] theorem mapError_error {ε ε' α : Type} (f : ε → ε') (e : ε) :
    (Except.error e : Except ε α).mapError f = .error (f e) := rfl

theorem mapError_eq_ok_iff {ε ε' α : Type} {x : Except ε α} {f : ε → ε'} {a : α} :
    x.mapError f = .ok a ↔ x = .ok a := by
  cases x <;> simp

theorem mapError_eq_error_iff {ε ε' α : Type} {x : Except ε α} {f : ε → ε'} {e : ε'} :
    x.mapError f = .error e ↔ ∃ cause, x = .error cause ∧ f cause = e := by
  cases x <;> simp

theorem toOption_mapError {ε ε' α : Type} (f : ε → ε') (x : Except ε α) :
    (x.mapError f).toOption = x.toOption := by
  cases x <;> rfl

/-! ## The fault of a composed operation -/

/-- Why an operation failed, if it did. -/
def fault? {ε α : Type} : Except ε α → Option ε
  | .ok _ => none
  | .error e => some e

@[simp] theorem fault?_ok {ε α : Type} (a : α) : fault? (.ok a : Except ε α) = none := rfl

@[simp] theorem fault?_error {ε α : Type} (e : ε) : fault? (.error e : Except ε α) = some e := rfl

theorem fault?_eq_some_iff {ε α : Type} {x : Except ε α} {e : ε} :
    fault? x = some e ↔ x = .error e := by
  cases x <;> simp

/-- The first part that fails decides; the second one is only reached past the first. -/
theorem fault?_bind {ε α β : Type} {x : Except ε α} {f : α → Except ε β} {o : Option ε}
    (h : ∀ a, x = .ok a → fault? (f a) = o) : fault? (x >>= f) = (fault? x).or o := by
  cases x with
  | error e => rfl
  | ok a => exact h a rfl

theorem fault?_bind_ok {ε α β : Type} (x : Except ε α) (f : α → β) :
    fault? (x >>= fun a ↦ .ok (f a)) = fault? x := by
  cases x <;> rfl

theorem findSome?_cons_or {α β : Type} (f : α → Option β) (x : α) (xs : List α) :
    (x :: xs).findSome? f = (f x).or (xs.findSome? f) := by
  rw [List.findSome?_cons]
  cases f x <;> rfl

theorem findSome?_congr {α β : Type} {f g : α → Option β} {xs : List α}
    (h : ∀ x ∈ xs, f x = g x) : xs.findSome? f = xs.findSome? g := by
  induction xs with
  | nil => rfl
  | cons x xs ih =>
      obtain ⟨hx, hxs⟩ := List.forall_mem_cons.mp h
      rw [findSome?_cons_or, findSome?_cons_or, hx, ih hxs]

theorem findSome?_flatMap {α β γ : Type} (f : β → Option γ) (g : α → List β) (xs : List α) :
    (xs.flatMap g).findSome? f = xs.findSome? fun x ↦ (g x).findSome? f := by
  induction xs with
  | nil => rfl
  | cons x xs ih => rw [List.flatMap_cons, List.findSome?_append, findSome?_cons_or, ih]

theorem fault?_mapM {ε α β : Type} (f : α → Except ε β) (xs : List α) :
    fault? (xs.mapM f) = xs.findSome? fun x ↦ fault? (f x) := by
  induction xs with
  | nil => rfl
  | cons x xs ih =>
      rw [List.mapM_cons, findSome?_cons_or, ← ih]
      apply fault?_bind
      intro y _
      apply fault?_bind_ok

namespace Traced

variable {α β : Type}

@[simp] theorem result_pure (a : α) : (pure a : Traced α).result = .ok a := rfl

@[simp] theorem result_silent (x : Except Fault α) : (silent x).result = x := rfl

@[simp] theorem result_write (e : Log.Entry) : (write e).result = .ok () := rfl

@[simp] theorem silent_ok_bind (a : α) (f : α → Traced β) : (silent (.ok a) >>= f) = f a := rfl

@[simp] theorem silent_error_bind (e : Fault) (f : α → Traced β) :
    (silent (.error e) >>= f) = ⟨[], .error e⟩ := rfl

@[simp] theorem result_bind (x : Traced α) (f : α → Traced β) :
    (x >>= f).result = x.result >>= fun a ↦ (f a).result := by
  obtain ⟨entries, result⟩ := x
  cases result <;> rfl

@[simp] theorem entries_pure (a : α) : (pure a : Traced α).entries = [] := rfl

@[simp] theorem entries_silent (x : Except Fault α) : (silent x).entries = [] := rfl

theorem entries_bind {x : Traced α} {a : α} (h : x.result = .ok a) (f : α → Traced β) :
    (x >>= f).entries = x.entries ++ (f a).entries := by
  obtain ⟨entries, result⟩ := x
  obtain rfl : result = .ok a := h
  rfl

def answers (x : Traced (List α)) : List α :=
  match x.result with
  | .ok as => as
  | .error _ => []

theorem answers_of_result {x : Traced (List α)} {as : List α} (h : x.result = .ok as) :
    x.answers = as := by
  simp [answers, h]

theorem flatMap_cons (f : α → Traced (List β)) (x : α) (xs : List α) :
    flatMap f (x :: xs) = f x >>= fun ys ↦ flatMap f xs >>= fun zs ↦ pure (ys ++ zs) := rfl

theorem flatMap_singleton (f : α → Traced (List β)) (a : α) : flatMap f [a] = f a := by
  rw [flatMap_cons]
  obtain ⟨entries, result⟩ := f a
  cases result with
  | error fault => rfl
  | ok bs =>
      change (⟨entries ++ [], .ok (bs ++ [])⟩ : Traced (List β)) = ⟨entries, .ok bs⟩
      rw [List.append_nil, List.append_nil]

@[simp] theorem bind_pure (x : Traced α) : (x >>= fun a ↦ pure a) = x := by
  obtain ⟨entries, result⟩ := x
  cases result with
  | error fault => rfl
  | ok a =>
      change (⟨entries ++ [], .ok a⟩ : Traced α) = ⟨entries, .ok a⟩
      rw [List.append_nil]

@[simp] theorem pure_bind (a : α) (f : α → Traced β) : (pure a >>= f) = f a := rfl

/-- Elements for which nothing is done do not count. -/
theorem flatMap_filter {f g : α → Traced (List β)} {test : α → Bool} {xs : List α}
    (h : ∀ x ∈ xs, f x = if test x then g x else pure []) :
    flatMap f xs = flatMap g (xs.filter test) := by
  induction xs with
  | nil => rfl
  | cons x xs ih =>
      obtain ⟨hx, hxs⟩ := List.forall_mem_cons.mp h
      rw [flatMap_cons, hx, ih hxs, List.filter_cons]
      cases test x with
      | false => simp
      | true => rfl

/-- An operation done for each element in turn succeeds if it does for every element; the answers
are strung together. -/
theorem flatMap_result_eq_ok_iff {f : α → Traced (List β)} {xs : List α} {bs : List β} :
    (flatMap f xs).result = .ok bs ↔
      (∀ x ∈ xs, (f x).result = .ok (f x).answers) ∧ bs = xs.flatMap fun x ↦ (f x).answers := by
  induction xs generalizing bs with
  | nil =>
      change Except.ok [] = Except.ok bs ↔ _
      simp only [List.not_mem_nil, false_imp_iff, implies_true, List.flatMap_nil, true_and,
        Except.ok.injEq]
      exact eq_comm
  | cons x xs ih =>
      simp only [flatMap_cons, result_bind, result_pure, bind_eq_ok_iff, ih, Except.ok.injEq,
        List.forall_mem_cons, List.flatMap_cons]
      constructor
      · rintro ⟨as, has, cs, ⟨hall, rfl⟩, rfl⟩
        rw [answers_of_result has]
        exact ⟨⟨has, hall⟩, rfl⟩
      · rintro ⟨⟨hx, hall⟩, rfl⟩
        exact ⟨_, hx, _, ⟨hall, rfl⟩, rfl⟩

theorem fault?_flatMap (f : α → Traced (List β)) (xs : List α) :
    fault? (flatMap f xs).result = xs.findSome? fun x ↦ fault? (f x).result := by
  induction xs with
  | nil => rfl
  | cons x xs ih =>
      simp only [flatMap_cons, result_bind, result_pure]
      rw [findSome?_cons_or, ← ih]
      apply fault?_bind
      intro as _
      apply fault?_bind_ok

theorem exists_of_flatMap_eq_error {f : α → Traced (List β)} {xs : List α} {e : Fault}
    (h : (flatMap f xs).result = .error e) : ∃ x ∈ xs, (f x).result = .error e := by
  have hfault := fault?_eq_some_iff.mpr h
  rw [fault?_flatMap] at hfault
  obtain ⟨x, hx, hfault⟩ := List.exists_of_findSome?_eq_some hfault
  exact ⟨x, hx, fault?_eq_some_iff.mp hfault⟩

theorem exists_of_mem_flatMap {f : α → Traced (List β)} {xs : List α} {bs : List β}
    (h : (flatMap f xs).result = .ok bs) {b : β} (hb : b ∈ bs) :
    ∃ x ∈ xs, ∃ as, (f x).result = .ok as ∧ b ∈ as := by
  obtain ⟨hall, rfl⟩ := flatMap_result_eq_ok_iff.mp h
  obtain ⟨x, hx, hb⟩ := List.mem_flatMap.mp hb
  exact ⟨x, hx, _, hall x hx, hb⟩

/-- Where all parts succeed, their entries follow each other. -/
theorem entries_flatMap {f : α → Traced (List β)} {xs : List α}
    (h : ∀ x ∈ xs, (f x).result = .ok (f x).answers) :
    (flatMap f xs).entries = xs.flatMap fun x ↦ (f x).entries := by
  induction xs with
  | nil => rfl
  | cons x xs ih =>
      obtain ⟨hx, hxs⟩ := List.forall_mem_cons.mp h
      have hrest := flatMap_result_eq_ok_iff.mpr ⟨hxs, rfl⟩
      rw [flatMap_cons, entries_bind hx, entries_bind hrest, ih hxs, entries_pure, List.append_nil,
        List.flatMap_cons]

theorem result_flatMap_pure (g : α → β) (xs : List α) :
    (flatMap (fun a ↦ pure [g a]) xs).result = .ok (xs.map g) := by
  apply flatMap_result_eq_ok_iff.mpr
  exact ⟨fun _ _ ↦ rfl, List.map_eq_flatMap⟩

theorem flatMap_map {γ : Type} (f : α → Traced (List β)) (g : γ → α) (xs : List γ) :
    flatMap f (xs.map g) = flatMap (fun a ↦ f (g a)) xs := by
  induction xs with
  | nil => rfl
  | cons x xs ih => rw [List.map_cons, flatMap_cons, flatMap_cons, ih]

end Traced

/-! ## Faults of some kind -/

/-- Whatever an operation fails with is a fault of some kind. -/
def FailsWith {α : Type} (kind : Fault → Prop) (x : Except Fault α) : Prop :=
  ∀ fault, x = .error fault → kind fault

namespace FailsWith

variable {α β : Type} {kind : Fault → Prop}

theorem ok (a : α) : FailsWith kind (.ok a) := fun _ h ↦ nomatch h

theorem error {fault : Fault} (h : kind fault) :
    FailsWith kind (.error fault : Except Fault α) := by
  rintro fault' ⟨⟩
  exact h

theorem bind {x : Except Fault α} {f : α → Except Fault β} (hx : FailsWith kind x)
    (hf : ∀ a, x = .ok a → FailsWith kind (f a)) : FailsWith kind (x >>= f) := by
  intro fault h
  obtain h | ⟨a, ha, h⟩ := bind_eq_error_iff.mp h
  · exact hx fault h
  · exact hf a ha fault h

theorem mapError {ε : Type} {x : Except ε α} {f : ε → Fault} (h : ∀ e, x = .error e → kind (f e)) :
    FailsWith kind (x.mapError f) := by
  intro fault hfault
  obtain ⟨e, he, rfl⟩ := mapError_eq_error_iff.mp hfault
  exact h e he

theorem forM {f : α → Except Fault PUnit} {xs : List α} (hf : ∀ x ∈ xs, FailsWith kind (f x)) :
    FailsWith kind (xs.forM f) := by
  induction xs with
  | nil => exact ok ()
  | cons x xs ih =>
      obtain ⟨hx, hxs⟩ := List.forall_mem_cons.mp hf
      exact hx.bind fun _ _ ↦ ih hxs

theorem mapM {f : α → Except Fault β} {xs : List α} (hf : ∀ x ∈ xs, FailsWith kind (f x)) :
    FailsWith kind (xs.mapM f) := by
  induction xs with
  | nil => exact ok []
  | cons x xs ih =>
      obtain ⟨hx, hxs⟩ := List.forall_mem_cons.mp hf
      rw [List.mapM_cons]
      exact hx.bind fun _ _ ↦ (ih hxs).bind fun _ _ ↦ ok _

theorem flatMap {f : α → Traced (List β)} {xs : List α}
    (hf : ∀ x ∈ xs, FailsWith kind (f x).result) :
    FailsWith kind (Traced.flatMap f xs).result := by
  intro fault h
  obtain ⟨x, hx, h⟩ := Traced.exists_of_flatMap_eq_error h
  exact hf x hx fault h

end FailsWith

end OrgService
