import OrgService.Proofs.Store.Strict

/-!
# Seeding new records

A batch of new records is accepted by every store, and its records are appended, in their order,
to what the scans of their types yield.
-/

namespace OrgService

namespace Snapshot

variable {s : Snapshot}

theorem get?_put_of_ne {id : Guid} {r : Record} {n : String} {id' : Guid}
    (h : (r.logicalName, id) ≠ (n, id')) : (s.put id r).get? n id' = s.get? n id' := by
  rw [get?, table_put]
  split
  · rename_i hn
    have hid : id ≠ id' := fun hid ↦ h (Prod.ext hn hid)
    rw [OrderedMap.get?_insert, if_neg hid]
    rfl
  · rfl

theorem scan_put_of_new {p : Guid × Record} (hnew : s.get? p.2.logicalName p.1 = none)
    (n : String) : (s.put p.1 p.2).scan n = s.scan n ++ [p.2].filter fun r ↦ r.logicalName = n := by
  rw [scan, table_put]
  split
  · rename_i hn
    subst hn
    have hkey : p.1 ∉ (s.table p.2.logicalName).keys := by
      rw [← OrderedMap.contains_eq_true_iff]
      simpa [OrderedMap.contains, get?] using hnew
    simp only [OrderedMap.values, OrderedMap.insert, insertBinding_of_not_mem hkey]
    simp [scan, OrderedMap.values]
  · rename_i hn
    simp [scan, hn]

end Snapshot

namespace Store

variable {s : Snapshot} {p : Guid × Record} {batch : List (Guid × Record)}

/-- After the first record of a batch of new records, the others are still new. -/
theorem FitsInto.put (h : FitsInto s (p :: batch)) (hids : ∀ q ∈ p :: batch, q.2.id = some q.1) :
    FitsInto (s.put p.1 p.2) batch := by
  obtain ⟨hnodup, hnew⟩ := h
  obtain ⟨hfirst, hnodup⟩ := List.nodup_cons.mp hnodup
  obtain ⟨hp, hids⟩ := List.forall_mem_cons.mp hids
  have hkey : key p ∉ batch.map key := mt (mem_map_key_iff hids hp).mp hfirst
  refine ⟨hnodup, fun q hq ↦ ?_⟩
  rw [Snapshot.get?_put_of_ne]
  · exact hnew q (List.mem_cons_of_mem p hq)
  · intro (heq : key p = key q)
    exact hkey (heq ▸ List.mem_map_of_mem hq)

/-- A batch of new records is appended to what the scans of their types yield. -/
theorem scan_publish (hids : ∀ p ∈ batch, p.2.id = some p.1) (h : FitsInto s batch) (n : String) :
    (s.publish batch).scan n =
      s.scan n ++ (batch.map Prod.snd).filter fun r ↦ r.logicalName = n := by
  rw [Snapshot.publish_eq]
  induction batch generalizing s with
  | nil => simp
  | cons p batch ih =>
      have hfirst := Snapshot.scan_put_of_new (h.2 p List.mem_cons_self) n
      rw [List.foldl_cons, ih (List.forall_mem_cons.mp hids).2 (h.put hids), hfirst,
        List.append_assoc, ← List.filter_append]
      rfl

/-- No duplicate is found among new records. -/
theorem FitsInto.duplicate?_eq_none (h : FitsInto s batch)
    (hids : ∀ p ∈ batch, p.2.id = some p.1) : duplicate? s [] batch = none := by
  by_contra hfound
  obtain ⟨p, hp⟩ := Option.ne_none_iff_exists'.mp hfound
  obtain ⟨earlier, later, rfl, -, hrepeats⟩ := duplicate?_eq_some_iff.mp hp
  obtain ⟨hearlier, hlater⟩ := List.forall_mem_append.mp hids
  rw [List.append_nil, List.mem_reverse, mem_map_key_iff hearlier (hlater p List.mem_cons_self)]
    at hrepeats
  rcases hrepeats with hearlier | hstored
  · have hnodup := h.1
    rw [List.map_append] at hnodup
    exact (List.nodup_append.mp hnodup).2.2 _ hearlier _ List.mem_cons_self rfl
  · rw [h.2 p (List.mem_append_right _ List.mem_cons_self)] at hstored
    contradiction

/-- Every store accepts a batch of new records. -/
theorem seed_of_fitsInto {s : Store} {records : List Record}
    (h : FitsInto s.contents (prepareAll s.generator records).1) :
    (s.seed records).1.contents = s.contents.publish (prepareAll s.generator records).1 ∧
      (s.seed records).2.result = .ok ((prepareAll s.generator records).1.map Prod.snd) := by
  have hnone := h.duplicate?_eq_none id_of_mem_prepareAll
  simp [seed, hnone]

end Store

end OrgService
