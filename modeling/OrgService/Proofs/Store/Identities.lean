import OrgService.Proofs.Store.Refinement

/-!
# Identities over a session

What a store holds under an identity is the last record it accepted under it. A batch therefore
leaves alone whatever it has no record for, and in a history without repetitions nothing that was
accepted is ever replaced.
-/

namespace OrgService

namespace History

variable {h more : History} {n : String} {id : Guid}

theorem get?_eq_latest? : h.get? n id = h.latest? (n, some id) := by
  have hsome : (h.get? n id).isSome = true ↔ (h.latest? (n, some id)).isSome = true := by
    rw [isSome_get?_iff, isSome_latest?]
  cases hget : h.get? n id with
  | none =>
      rw [hget] at hsome
      exact (Option.not_isSome_iff_eq_none.mp fun hlatest ↦ nomatch hsome.mpr hlatest).symm
  | some r =>
      -- A current record is the latest one of its own identity.
      obtain ⟨i, -, hr⟩ := List.mem_filterMap.mp (List.mem_of_find?_eq_some hget)
      have hidentity : r.identity = (n, some id) := by simpa using List.find?_some hget
      rw [← hidentity, identity_of_latest? hr, hr]

theorem latest?_append {i : String × Option Guid} :
    History.latest? (h ++ more) i = (History.latest? more i).or (h.latest? i) := by
  rw [latest?, List.reverse_append, List.find?_append]
  rfl

theorem get?_append_of_not_mem (hnew : (n, some id) ∉ more.map Record.identity) :
    History.get? (h ++ more) n id = h.get? n id := by
  have hmore : History.latest? more (n, some id) = none := by
    rw [← Option.not_isSome_iff_eq_none, isSome_latest?]
    exact hnew
  rw [get?_eq_latest?, get?_eq_latest?, latest?_append, hmore, Option.none_or]

theorem get?_append_of_nodup (hnodup : ((h ++ more).map Record.identity).Nodup) {r : Record}
    (hr : h.get? n id = some r) : History.get? (h ++ more) n id = some r := by
  have hmem : (n, some id) ∈ h.map Record.identity := by
    rw [← isSome_get?_iff, hr]
    rfl
  rw [List.map_append] at hnodup
  rw [get?_append_of_not_mem, hr]
  intro hnew
  exact (List.nodup_append.mp hnodup).2.2 _ hmem _ hnew rfl

end History

namespace Store

/-- All records that the answers of a session tell to be stored, batch after batch. -/
def accepted (answers : List Answer) : List Record :=
  answers.flatMap fun
    | .seeded (some stored) => stored
    | _ => []

namespace Ledger

theorem history_step (l : Ledger) (a : Action) :
    (l.step a).1.history = l.history ++ accepted [(l.step a).2] := by
  cases a with
  | seed batch =>
      simp only [step, seed]
      split <;> simp [accepted]
  | read i reading =>
      simp only [step]
      split
      · cases reading <;> simp [accepted, History.read]
      · simp [accepted]
  | scanSnapshot i n =>
      simp only [step]
      split <;> simp [accepted]
  | advance i =>
      simp only [step]
      split <;> simp [accepted]
  | snapshot => simp [step, accepted]
  | get n id => simp [step, accepted]
  | typeNames => simp [step, accepted]
  | scan n => simp [step, accepted]

/-- The history of a ledger is what it accepted. -/
theorem history_after (l : Ledger) (as : List Action) :
    (after step l as).history = l.history ++ accepted (answers step l as) := by
  induction as generalizing l with
  | nil => exact (List.append_nil _).symm
  | cons a as ih =>
      have hafter : after step l (a :: as) = after step (l.step a).1 as := rfl
      have haccepted : accepted (answers step l (a :: as)) =
          accepted [(l.step a).2] ++ accepted (answers step (l.step a).1 as) :=
        @List.flatMap_append _ _ [_] _ _
      rw [hafter, ih, history_step, haccepted, List.append_assoc]

theorem strict_after (l : Ledger) (as : List Action) : (after step l as).strict = l.strict := by
  have hstep : ∀ (l : Ledger) a, (l.step a).1.strict = l.strict := by
    intro l a
    cases a <;> simp only [step, seed] <;> split <;> rfl
  induction as generalizing l with
  | nil => rfl
  | cons a as ih => exact (ih _).trans (hstep l a)

end Ledger

/-- Nothing is stored under an identity that was never accepted. -/
theorem Session.Matches.get?_eq_none_iff {x : Session} {l : Ledger} (hx : x.Matches l)
    {n : String} {id : Guid} :
    x.store.contents.get? n id = none ↔ (n, some id) ∉ l.history.map Record.identity := by
  rw [hx.contents.get?_eq, ← History.isSome_get?_iff, Bool.not_eq_true,
    Option.isSome_eq_false_iff, Option.isNone_iff_eq_none]

end Store

end OrgService
