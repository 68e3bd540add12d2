import Mathlib.Data.List.Basic
import Mathlib.Data.Set.Defs
import OrgService.ColumnSet
import OrgService.Record

/-!
# Histories

A history lists all records that a store was seeded with, one batch after the other. Its current
records are the last versions of all identities, each in the place where the identity first came.
-/

namespace OrgService

theorem firstOccurrences_concat {α : Type} [DecidableEq α] (xs : List α) (y : α) :
    firstOccurrences (xs ++ [y]) =
      if y ∈ xs then firstOccurrences xs else firstOccurrences xs ++ [y] := by
  induction xs with
  | nil => rfl
  | cons x xs ih =>
      simp only [List.cons_append, firstOccurrences, ih, List.mem_cons]
      by_cases hyx : y = x
      · subst hyx
        by_cases hy : y ∈ xs <;> simp [hy]
      · by_cases hy : y ∈ xs <;> simp [hy, hyx]

def Record.identity (r : Record) : String × Option Guid := (r.logicalName, r.id)

/-- The records that a store was seeded with, in order. -/
abbrev History := List Record

namespace History

def latest? (h : History) (i : String × Option Guid) : Option Record :=
  h.reverse.find? fun r ↦ r.identity = i

/-- The last version of every identity, in the order in which the identities first came. -/
def current (h : History) : List Record :=
  (firstOccurrences (h.map Record.identity)).filterMap h.latest?

def get? (h : History) (entityName : String) (id : Guid) : Option Record :=
  h.current.find? fun r ↦ r.identity = (entityName, some id)

def scan (h : History) (entityName : String) : List Record :=
  h.current.filter fun r ↦ r.logicalName = entityName

def typeNames (h : History) : Set String := {n | ∃ r ∈ h.current, r.logicalName = n}

/-- The attributes that current records of a type hold, and the primary one of the type if there
is such a record. -/
def attributes (h : History) (entityName : String) : Set String :=
  {a | ∃ r ∈ h.current, r.logicalName = entityName ∧
    (a = entityName ++ "id" ∨ a ∈ r.attributes.keys)}

theorem latest?_concat (h : History) (r : Record) (i : String × Option Guid) :
    History.latest? (h ++ [r]) i = if r.identity = i then some r else h.latest? i := by
  by_cases hi : r.identity = i <;> simp [latest?, hi]

theorem identity_of_latest? {h : History} {i : String × Option Guid} {r : Record}
    (hr : h.latest? i = some r) : r.identity = i := by
  simpa using List.find?_some hr

theorem isSome_latest? {h : History} {i : String × Option Guid} :
    (h.latest? i).isSome = true ↔ i ∈ h.map Record.identity := by
  simp [latest?]

theorem mem_of_mem_scan {h : History} {n : String} {r : Record} (hr : r ∈ h.scan n) : r ∈ h := by
  obtain ⟨i, -, hlatest⟩ := List.mem_filterMap.mp (List.mem_filter.mp hr).1
  exact List.mem_reverse.mp (List.mem_of_find?_eq_some hlatest)

end History

/-! ## Current records one by one -/

/-- Puts a record in the place of the one with its identity, or else last. -/
def upsert (r : Record) : List Record → List Record
  | [] => [r]
  | x :: xs => if x.identity = r.identity then r :: xs else x :: upsert r xs

theorem upsert_of_not_mem {r : Record} {xs : List Record}
    (h : r.identity ∉ xs.map Record.identity) : upsert r xs = xs ++ [r] := by
  induction xs with
  | nil => rfl
  | cons x xs ih =>
      simp only [List.map_cons, List.mem_cons, not_or] at h
      rw [upsert, if_neg (Ne.symm h.1), ih h.2, List.cons_append]

theorem upsert_filterMap {f : String × Option Guid → Option Record}
    (hf : ∀ i x, f i = some x → x.identity = i) {is : List (String × Option Guid)}
    (hnodup : is.Nodup) {r : Record} (hr : (f r.identity).isSome = true) (hmem : r.identity ∈ is) :
    upsert r (is.filterMap f) =
      is.filterMap fun i ↦ if r.identity = i then some r else f i := by
  induction is with
  | nil => simp at hmem
  | cons i is ih =>
      obtain ⟨hi, hnodup⟩ := List.nodup_cons.mp hnodup
      by_cases heq : r.identity = i
      · subst heq
        obtain ⟨x, hx⟩ := Option.isSome_iff_exists.mp hr
        simp only [List.filterMap_cons, hx, upsert, hf _ x hx, if_true]
        congr 1
        refine List.filterMap_congr fun j hj ↦ (if_neg ?_).symm
        rintro rfl
        exact hi hj
      · have hmem := (List.mem_cons.mp hmem).resolve_left heq
        simp only [List.filterMap_cons, heq, if_false]
        cases hfi : f i with
        | none => exact ih hnodup hmem
        | some x =>
            have hne : x.identity ≠ r.identity := fun h ↦ heq (h.symm.trans (hf i x hfi))
            simp only [upsert, if_neg hne, ih hnodup hmem]

namespace History

theorem map_identity_current (h : History) :
    h.current.map Record.identity = firstOccurrences (h.map Record.identity) := by
  have hsome : ∀ i ∈ firstOccurrences (h.map Record.identity),
      (h.latest? i).map Record.identity = some i := by
    intro i hi
    obtain ⟨r, hr⟩ := Option.isSome_iff_exists.mp
      (isSome_latest?.mpr (mem_firstOccurrences.mp hi))
    rw [hr, Option.map_some, identity_of_latest? hr]
  rw [current, List.map_filterMap, List.filterMap_congr hsome, List.filterMap_some]

theorem current_concat (h : History) (r : Record) :
    History.current (h ++ [r]) = upsert r h.current := by
  -- Looking up one more record changes one answer, and adds an identity unless it is there.
  have hlatest : History.latest? (h ++ [r]) =
      fun i ↦ if r.identity = i then some r else h.latest? i :=
    funext (latest?_concat h r)
  rw [current, hlatest, List.map_append, List.map_singleton, firstOccurrences_concat]
  by_cases hmem : r.identity ∈ h.map Record.identity
  · rw [if_pos hmem]
    exact (upsert_filterMap (fun _ _ ↦ identity_of_latest?) (nodup_firstOccurrences _)
      (isSome_latest?.mpr hmem) (mem_firstOccurrences.mpr hmem)).symm
  · rw [if_neg hmem, upsert_of_not_mem (by rwa [map_identity_current, mem_firstOccurrences]),
      List.filterMap_append]
    congr 1
    · refine List.filterMap_congr fun i hi ↦ if_neg ?_
      rintro rfl
      exact hmem (mem_firstOccurrences.mp hi)
    · simp

theorem current_append (h batch : History) :
    History.current (h ++ batch) = batch.foldl (fun rs r ↦ upsert r rs) h.current := by
  induction batch generalizing h with
  | nil => simp
  | cons r batch ih => rw [List.foldl_cons, ← current_concat, ← ih, List.append_assoc]; rfl

end History

end OrgService
