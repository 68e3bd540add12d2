import OrgService.Proofs.OrderedMap
import OrgService.Proofs.Store.History
import OrgService.Store.View

/-!
# Contents as lists of records

A snapshot holds its records in a table for each type. It reflects a flat list of records if the
tables, taken together, are the list sorted by types. Publishing a batch amounts to upserting its
records one by one, and whatever is read from a snapshot can be read from the list it reflects.
-/

namespace OrgService

/-! ## Publishing a batch -/

namespace Snapshot

def overlay (s : Snapshot) (touched : OrderedMap String Table) : Snapshot :=
  ⟨s.tables.insertAll touched.entries⟩

theorem table_overlay (s : Snapshot) (touched : OrderedMap String Table) (n : String) :
    (s.overlay touched).table n = (touched.get? n).getD (s.table n) := by
  rw [table, overlay, OrderedMap.get?_insertAll_entries]
  cases touched.get? n <;> rfl

theorem overlay_touch (s : Snapshot) (touched : OrderedMap String Table) (p : Guid × Record) :
    s.overlay (s.touch touched p) = (s.overlay touched).put p.1 p.2 := by
  rw [put, table_overlay, overlay, touch, OrderedMap.insertAll_insert, overlay]

/-- Copying each touched table once has the effect of putting the records one by one. -/
theorem publish_eq (s : Snapshot) (batch : List (Guid × Record)) :
    s.publish batch = batch.foldl (fun s p ↦ s.put p.1 p.2) s := by
  -- The invariant: what was touched so far, laid over the old contents, is what was put so far.
  have hfold : ∀ touched, s.overlay (batch.foldl s.touch touched) =
      batch.foldl (fun s p ↦ s.put p.1 p.2) (s.overlay touched) := by
    induction batch with
    | nil => exact fun _ ↦ rfl
    | cons p batch ih =>
        intro touched
        rw [List.foldl_cons, List.foldl_cons, ih, overlay_touch]
  exact hfold OrderedMap.empty

theorem table_put (s : Snapshot) (id : Guid) (r : Record) (n : String) :
    (s.put id r).table n =
      if r.logicalName = n then (s.table n).insert id r else s.table n := by
  rw [table, put, OrderedMap.get?_insert]
  split
  · rename_i hn
    rw [← hn]
    rfl
  · rfl

end Snapshot

/-! ## Reflecting a list of records -/

def Record.entryOf? (n : String) (r : Record) : Option (Guid × Record) :=
  if r.logicalName = n then r.id.map fun id ↦ (id, r) else none

theorem Record.entryOf?_eq_some_iff {n : String} {r : Record} {e : Guid × Record} :
    r.entryOf? n = some e ↔ r.identity = (n, some e.1) ∧ r = e.2 := by
  unfold entryOf?
  constructor
  · intro h
    split at h
    · rename_i hn
      obtain ⟨id, hid, rfl⟩ := Option.map_eq_some_iff.mp h
      exact ⟨Prod.ext hn hid, rfl⟩
    · contradiction
  · rintro ⟨hidentity, rfl⟩
    obtain ⟨hn, hid⟩ := Prod.mk.inj hidentity
    simp [hn, hid]

/-- A snapshot has a table for each type of the listed records, in which these are in order. -/
structure Snapshot.Reflects (s : Snapshot) (rs : List Record) : Prop where
  types : s.tables.keys = firstOccurrences (rs.map Record.logicalName)
  table : ∀ n, (s.table n).entries = rs.filterMap (Record.entryOf? n)
  identified : ∀ r ∈ rs, r.id.isSome = true

theorem map_logicalName_upsert (r : Record) (rs : List Record) :
    (upsert r rs).map Record.logicalName =
      if r.identity ∈ rs.map Record.identity then rs.map Record.logicalName
      else rs.map Record.logicalName ++ [r.logicalName] := by
  induction rs with
  | nil => rfl
  | cons x rs ih =>
      by_cases hx : x.identity = r.identity
      · have hname : x.logicalName = r.logicalName := congrArg Prod.fst hx
        simp [upsert, hx, hname]
      · simp only [upsert, if_neg hx, List.map_cons, ih, List.mem_cons, Ne.symm hx, false_or]
        split <;> rfl

theorem mem_upsert {r x : Record} {rs : List Record} (h : x ∈ upsert r rs) : x = r ∨ x ∈ rs := by
  induction rs with
  | nil => exact .inl (List.mem_singleton.mp h)
  | cons y rs ih =>
      unfold upsert at h
      split at h
      · exact (List.mem_cons.mp h).imp_right (List.mem_cons_of_mem y)
      · rcases List.mem_cons.mp h with rfl | h
        · exact .inr List.mem_cons_self
        · exact (ih h).imp_right (List.mem_cons_of_mem y)

/-- Upserting a record inserts its entry in the table of its type, and in no other. -/
theorem filterMap_entryOf?_upsert {r : Record} {id : Guid} (hid : r.id = some id) (n : String)
    (rs : List Record) :
    (upsert r rs).filterMap (Record.entryOf? n) =
      if r.logicalName = n then insertBinding id r (rs.filterMap (Record.entryOf? n))
      else rs.filterMap (Record.entryOf? n) := by
  induction rs with
  | nil =>
      by_cases hn : r.logicalName = n <;>
        simp [upsert, Record.entryOf?, hn, hid, insertBinding]
  | cons x rs ih =>
      by_cases hx : x.identity = r.identity
      · obtain ⟨hname, hxid⟩ := Prod.mk.inj hx
        by_cases hn : r.logicalName = n <;>
          simp [upsert, hx, Record.entryOf?, hname, hxid, hn, hid, insertBinding]
      · simp only [upsert, if_neg hx, List.filterMap_cons, ih]
        cases hentry : Record.entryOf? n x with
        | none => rfl
        | some e =>
            obtain ⟨hidentity, -⟩ := Record.entryOf?_eq_some_iff.mp hentry
            by_cases hn : r.logicalName = n
            · have hne : e.1 ≠ id := by
                rintro rfl
                exact hx (hidentity.trans (Prod.ext hn hid).symm)
              simp only [hn, if_true, insertBinding, if_neg hne]
            · simp only [hn, if_false]

namespace Snapshot

variable {s : Snapshot} {rs : List Record}

theorem reflects_empty : Snapshot.empty.Reflects [] where
  types := rfl
  table := fun _ ↦ rfl
  identified := by simp

theorem Reflects.put (h : s.Reflects rs) {r : Record} {id : Guid} (hid : r.id = some id) :
    (s.put id r).Reflects (upsert r rs) where
  types := by
    rw [Snapshot.put, OrderedMap.keys_insert, h.types, map_logicalName_upsert]
    by_cases hmem : r.identity ∈ rs.map Record.identity
    · obtain ⟨x, hx, heq⟩ := List.mem_map.mp hmem
      have hname : r.logicalName ∈ rs.map Record.logicalName :=
        List.mem_map.mpr ⟨x, hx, congrArg Prod.fst heq⟩
      rw [if_pos hmem, if_pos (mem_firstOccurrences.mpr hname)]
    · rw [if_neg hmem, firstOccurrences_concat]
      simp only [mem_firstOccurrences]
  table := fun n ↦ by
    rw [table_put, filterMap_entryOf?_upsert hid, ← h.table n]
    split <;> rfl
  identified := by
    intro x hx
    rcases mem_upsert hx with rfl | hx
    · simp [hid]
    · exact h.identified x hx

theorem Reflects.publish {h : History} (hs : s.Reflects h.current) {batch : List (Guid × Record)}
    (hids : ∀ p ∈ batch, p.2.id = some p.1) :
    (s.publish batch).Reflects (History.current (h ++ batch.map Prod.snd)) := by
  rw [publish_eq, History.current_append]
  generalize h.current = rs at hs
  induction batch generalizing s rs with
  | nil => exact hs
  | cons p batch ih =>
      obtain ⟨hp, hids⟩ := List.forall_mem_cons.mp hids
      exact ih hids _ (hs.put hp)

/-! ## Reading -/

variable {h : History}

theorem Reflects.get?_eq (hs : s.Reflects h.current) (n : String) (id : Guid) :
    s.get? n id = h.get? n id := by
  rw [Snapshot.get?, OrderedMap.get?, hs.table n, History.get?]
  induction h.current with
  | nil => rfl
  | cons x rs ih =>
      by_cases hx : x.identity = (n, some id)
      · have hentry : x.entryOf? n = some (id, x) := Record.entryOf?_eq_some_iff.mpr ⟨hx, rfl⟩
        simp [hx, hentry]
      · rw [List.find?_cons_of_neg (by simpa using hx), List.filterMap_cons]
        cases hentry : x.entryOf? n with
        | none => exact ih
        | some e =>
            obtain ⟨hidentity, -⟩ := Record.entryOf?_eq_some_iff.mp hentry
            have hne : e.1 ≠ id := by
              rintro rfl
              exact hx hidentity
            rw [← ih]
            simp [hne]

theorem Reflects.scan_eq (hs : s.Reflects h.current) (n : String) : s.scan n = h.scan n := by
  rw [Snapshot.scan, OrderedMap.values, hs.table n, History.scan, List.map_filterMap,
    ← List.filterMap_eq_filter]
  refine List.filterMap_congr fun r hr ↦ ?_
  obtain ⟨id, hid⟩ := Option.isSome_iff_exists.mp (hs.identified r hr)
  by_cases hn : r.logicalName = n <;>
    simp [Record.entryOf?, Option.guard, hn, hid]

theorem hasType_of_mem_scan {n : String} {r : Record} (hr : r ∈ s.scan n) :
    s.hasType n = true := by
  rw [scan, table] at hr
  rw [hasType, OrderedMap.contains]
  cases htable : s.tables.get? n with
  | none => simp [htable, OrderedMap.values, OrderedMap.empty] at hr
  | some t => rfl

theorem Reflects.nodup_identity_scan (hs : s.Reflects h.current) (n : String) :
    ((s.scan n).map Record.identity).Nodup := by
  have hnodup : (h.current.map Record.identity).Nodup := by
    rw [History.map_identity_current]
    exact nodup_firstOccurrences _
  rw [hs.scan_eq]
  exact hnodup.sublist (List.filter_sublist.map _)

theorem Reflects.mem_types_iff (hs : s.Reflects h.current) {n : String} :
    n ∈ s.tables.keys ↔ n ∈ h.typeNames := by
  rw [hs.types, mem_firstOccurrences, List.mem_map]
  rfl

theorem Reflects.hasType_iff (hs : s.Reflects h.current) {n : String} :
    s.hasType n = true ↔ n ∈ h.typeNames := by
  rw [hasType, OrderedMap.contains_eq_true_iff, hs.mem_types_iff]

theorem Reflects.exists_mem_scan (hs : s.Reflects h.current) {n : String}
    (hn : s.hasType n = true) : ∃ r, r ∈ s.scan n := by
  obtain ⟨r, hr, hname⟩ := hs.hasType_iff.mp hn
  rw [hs.scan_eq]
  exact ⟨r, List.mem_filter.mpr ⟨hr, decide_eq_true hname⟩⟩

theorem Reflects.mem_knownAttributes_iff (hs : s.Reflects h.current) {n a : String} :
    a ∈ s.knownAttributes n ↔ a ∈ h.attributes n := by
  unfold knownAttributes
  split
  · rename_i hn
    obtain ⟨r, hr, hname⟩ := hs.hasType_iff.mp hn
    rw [hs.scan_eq, List.mem_cons, List.mem_flatMap]
    constructor
    · rintro (rfl | ⟨r', hr', ha⟩)
      · exact ⟨r, hr, hname, .inl rfl⟩
      · obtain ⟨hr', hname'⟩ := List.mem_filter.mp hr'
        exact ⟨r', hr', by simpa using hname', .inr ha⟩
    · rintro ⟨r', hr', hname', rfl | ha⟩
      · exact .inl rfl
      · exact .inr ⟨r', List.mem_filter.mpr ⟨hr', by simpa using hname'⟩, ha⟩
  · rename_i hn
    constructor
    · intro ha
      simp at ha
    · rintro ⟨r, hr, hname, -⟩
      exact absurd (hs.hasType_iff.mpr ⟨r, hr, hname⟩) hn

end Snapshot

namespace View

/-- What a view remembers of a type is what it would collect. -/
def Sound (v : View) : Prop :=
  ∀ n names, v.remembered.get? n = some names → names = v.contents.knownAttributes n

variable {v : View}

theorem sound_ofContents (contents : Snapshot) : (ofContents contents).Sound := by
  intro n names h
  simp [ofContents] at h

theorem Sound.knownAttributes_eq (hv : v.Sound) (n : String) :
    (v.knownAttributes n).1 = v.contents.knownAttributes n := by
  unfold knownAttributes
  split
  · rename_i names hnames
    exact hv n names hnames
  · split
    · rfl
    · rename_i hn
      simp [Snapshot.knownAttributes, hn]

@[simp] theorem contents_knownAttributes (n : String) :
    (v.knownAttributes n).2.contents = v.contents := by
  unfold knownAttributes
  split
  · rfl
  · split <;> rfl

theorem Sound.knownAttributes (hv : v.Sound) (n : String) : (v.knownAttributes n).2.Sound := by
  unfold View.knownAttributes
  split
  · exact hv
  · split
    · intro m names hm
      rw [OrderedMap.get?_insert] at hm
      split at hm
      · rename_i hnm
        rw [← Option.some.inj hm, hnm]
      · exact hv m names hm
    · exact hv

end View

end OrgService
