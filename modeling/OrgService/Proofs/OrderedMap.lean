import Mathlib.Data.List.Nodup
import OrgService.OrderedMap

/-!
# Reading maps in insertion order

What a map holds after an insertion, and after a list of insertions: a later one wins.
-/

namespace OrgService

variable {κ ν : Type} [DecidableEq κ]

theorem find?_insertBinding (k x : κ) (v : ν) (kvs : List (κ × ν)) :
    (insertBinding k v kvs).find? (fun e ↦ e.1 = x) =
      if k = x then some (k, v) else kvs.find? fun e ↦ e.1 = x := by
  induction kvs with
  | nil => simp only [insertBinding, List.find?_singleton, List.find?_nil, decide_eq_true_eq]
  | cons kv rest ih =>
      obtain ⟨k', v'⟩ := kv
      by_cases hk : k' = k
      · subst hk
        by_cases hx : k' = x <;> simp [insertBinding, hx]
      · rw [insertBinding, if_neg hk]
        by_cases hx : k' = x
        · have hkx : k ≠ x := fun h ↦ hk (hx.trans h.symm)
          simp [hx, hkx]
        · simp [hx, ih]

theorem find?_of_mem_nodup {kvs : List (κ × ν)} (hnodup : (kvs.map Prod.fst).Nodup) {e : κ × ν}
    (he : e ∈ kvs) : (kvs.find? fun f ↦ f.1 = e.1) = some e := by
  induction kvs with
  | nil => simp at he
  | cons f kvs ih =>
      obtain ⟨hf, hnodup⟩ := List.nodup_cons.mp hnodup
      rcases List.mem_cons.mp he with rfl | he
      · simp
      · have hne : f.1 ≠ e.1 := fun h ↦ hf (h ▸ List.mem_map_of_mem he)
        simp [hne, ih hnodup he]

theorem find?_reverse_of_nodup {kvs : List (κ × ν)} (hnodup : (kvs.map Prod.fst).Nodup) {k : κ} :
    (kvs.reverse.find? fun e ↦ e.1 = k) = kvs.find? fun e ↦ e.1 = k := by
  cases hfound : kvs.find? fun e ↦ e.1 = k with
  | none => simpa using hfound
  | some e =>
      have hk : e.1 = k := by simpa using List.find?_some hfound
      subst hk
      refine find?_of_mem_nodup ?_ (List.mem_reverse.mpr (List.mem_of_find?_eq_some hfound))
      rw [List.map_reverse]
      exact List.nodup_reverse.mpr hnodup

theorem map_fst_insertBinding (k : κ) (v : ν) (kvs : List (κ × ν)) :
    (insertBinding k v kvs).map Prod.fst =
      if k ∈ kvs.map Prod.fst then kvs.map Prod.fst else kvs.map Prod.fst ++ [k] := by
  induction kvs with
  | nil => simp [insertBinding]
  | cons kv rest ih =>
      obtain ⟨k', v'⟩ := kv
      by_cases hk : k' = k
      · simp [insertBinding, hk]
      · have hne : k ≠ k' := fun h ↦ hk h.symm
        simp only [insertBinding, hk, if_false, List.map_cons, ih, List.mem_cons, hne, false_or]
        split <;> rfl

theorem insertBinding_of_not_mem {k : κ} {v : ν} {kvs : List (κ × ν)}
    (hk : k ∉ kvs.map Prod.fst) : insertBinding k v kvs = kvs ++ [(k, v)] := by
  induction kvs with
  | nil => rfl
  | cons e kvs ih =>
      rw [List.map_cons, List.mem_cons, not_or] at hk
      rw [insertBinding, if_neg (Ne.symm hk.1), ih hk.2, List.cons_append]

namespace OrderedMap

variable {m : OrderedMap κ ν} {k x : κ} {v : ν}

@[simp] theorem get?_empty : (empty : OrderedMap κ ν).get? k = none := rfl

theorem get?_insert : (m.insert k v).get? x = if k = x then some v else m.get? x := by
  simp only [get?, insert, find?_insertBinding]
  split <;> rfl

theorem keys_insert :
    (m.insert k v).keys = if k ∈ m.keys then m.keys else m.keys ++ [k] :=
  map_fst_insertBinding k v m.entries

theorem contains_eq_true_iff : m.contains k = true ↔ k ∈ m.keys := by
  simp [contains, get?, keys]

theorem get?_insertAll (m : OrderedMap κ ν) (kvs : List (κ × ν)) :
    (m.insertAll kvs).get? k =
      ((kvs.reverse.find? fun e ↦ e.1 = k).map Prod.snd).or (m.get? k) := by
  unfold insertAll
  induction kvs generalizing m with
  | nil => rfl
  | cons e kvs ih =>
      rw [List.foldl_cons, ih, get?_insert, List.reverse_cons, List.find?_append]
      cases kvs.reverse.find? fun e ↦ e.1 = k with
      | some f => rfl
      | none => by_cases h : e.1 = k <;> simp [h]

theorem insertAll_append (m : OrderedMap κ ν) (kvs kvs' : List (κ × ν)) :
    m.insertAll (kvs ++ kvs') = (m.insertAll kvs).insertAll kvs' := List.foldl_append

theorem get?_ofList (kvs : List (κ × ν)) :
    (ofList kvs).get? k = (kvs.reverse.find? fun e ↦ e.1 = k).map Prod.snd := by
  simp [ofList, get?_insertAll]

theorem get?_insertAll_entries (m m' : OrderedMap κ ν) :
    (m.insertAll m'.entries).get? k = (m'.get? k).or (m.get? k) := by
  rw [get?_insertAll, find?_reverse_of_nodup m'.nodup]
  rfl

theorem keys_insertAll (m : OrderedMap κ ν) (kvs : List (κ × ν)) :
    (m.insertAll kvs).keys =
      (kvs.map Prod.fst).foldl (fun ks k ↦ if k ∈ ks then ks else ks ++ [k]) m.keys := by
  unfold insertAll
  induction kvs generalizing m with
  | nil => rfl
  | cons e kvs ih => rw [List.foldl_cons, ih, keys_insert, List.map_cons, List.foldl_cons]

theorem get?_of_mem {e : κ × ν} (h : e ∈ m.entries) : m.get? e.1 = some e.2 := by
  rw [get?, find?_of_mem_nodup m.nodup h, Option.map_some]

theorem mem_of_get? (h : m.get? k = some v) : (k, v) ∈ m.entries := by
  obtain ⟨⟨k', v'⟩, hfound, rfl⟩ := Option.map_eq_some_iff.mp h
  have hk : k' = k := by simpa using List.find?_some hfound
  exact hk ▸ List.mem_of_find?_eq_some hfound

/-- Maps are equal if they have the same keys in the same order with the same values. -/
theorem ext_get? {m m' : OrderedMap κ ν} (hkeys : m.keys = m'.keys)
    (hget : ∀ k, m.get? k = m'.get? k) : m = m' := by
  have hentries : ∀ m : OrderedMap κ ν,
      m.entries = m.keys.filterMap fun k ↦ (m.get? k).map (Prod.mk k) := by
    intro m
    rw [keys, List.filterMap_map]
    refine (List.filterMap_some.symm.trans (List.filterMap_congr fun e he ↦ ?_))
    simp [get?_of_mem he]
  have heq : m.entries = m'.entries := by rw [hentries m, hkeys, funext hget, ← hentries]
  cases m
  cases m'
  simpa using heq

/-- Bindings of new keys are appended. -/
theorem entries_insertAll {m : OrderedMap κ ν} {kvs : List (κ × ν)}
    (hnodup : (m.keys ++ kvs.map Prod.fst).Nodup) :
    (m.insertAll kvs).entries = m.entries ++ kvs := by
  induction kvs generalizing m with
  | nil => exact (List.append_nil _).symm
  | cons e kvs ih =>
      have hnew : e.1 ∉ m.keys := fun hmem ↦
        (List.nodup_append.mp hnodup).2.2 _ hmem _ List.mem_cons_self rfl
      have hkeys : (m.insert e.1 e.2).keys = m.keys ++ [e.1] := by rw [keys_insert, if_neg hnew]
      have hrest : ((m.insert e.1 e.2).keys ++ kvs.map Prod.fst).Nodup := by
        rw [hkeys, List.append_assoc]
        exact hnodup
      have hinsert : (m.insert e.1 e.2).entries = m.entries ++ [e] := insertBinding_of_not_mem hnew
      have hstep : m.insertAll (e :: kvs) = (m.insert e.1 e.2).insertAll kvs := rfl
      rw [hstep, ih hrest, hinsert, List.append_assoc, List.singleton_append]

theorem ofList_entries (m : OrderedMap κ ν) : ofList m.entries = m := by
  have hentries : (ofList m.entries).entries = m.entries :=
    entries_insertAll (m := empty) m.nodup
  cases hm : ofList m.entries
  cases m
  simpa [hm] using hentries

/-- Inserting into a map whose bindings are inserted afterwards is inserting after them. -/
theorem insertAll_insert (m m' : OrderedMap κ ν) :
    m.insertAll (m'.insert k v).entries = (m.insertAll m'.entries).insert k v := by
  apply ext_get?
  · -- Only the keys of what is inserted count here, so a key that is there already adds nothing.
    have hkeys : ∀ m' : OrderedMap κ ν, (m.insertAll m'.entries).keys =
        m'.keys.foldl (fun ks k ↦ if k ∈ ks then ks else ks ++ [k]) m.keys :=
      fun m' ↦ keys_insertAll m m'.entries
    rw [hkeys, keys_insert, keys_insert]
    by_cases hk : k ∈ m'.keys
    · have hmem : k ∈ (m.insertAll m'.entries).keys := by
        obtain ⟨w, hw⟩ := Option.isSome_iff_exists.mp (contains_eq_true_iff.mpr hk)
        rw [← contains_eq_true_iff, contains, get?_insertAll_entries, hw]
        rfl
      rw [if_pos hk, if_pos hmem, hkeys]
    · rw [if_neg hk, List.foldl_append, ← hkeys]
      rfl
  · intro x
    simp only [get?_insertAll_entries, get?_insert]
    split <;> rfl

theorem mem_of_get?_ofList {kvs : List (κ × ν)} (h : (ofList kvs).get? k = some v) :
    (k, v) ∈ kvs := by
  rw [get?_ofList] at h
  obtain ⟨⟨k', v'⟩, hfound, rfl⟩ := Option.map_eq_some_iff.mp h
  have hk : k' = k := by simpa using List.find?_some hfound
  exact hk ▸ List.mem_reverse.mp (List.mem_of_find?_eq_some hfound)

theorem exists_get?_ofList {kvs : List (κ × ν)} (h : (k, v) ∈ kvs) :
    ∃ w, (ofList kvs).get? k = some w := by
  rw [get?_ofList]
  apply Option.isSome_iff_exists.mp
  rw [Option.isSome_map, List.find?_isSome]
  exact ⟨(k, v), List.mem_reverse.mpr h, by simp⟩

end OrderedMap

end OrgService
