import OrgService.Proofs.Document.RoundTrip
import OrgService.Proofs.Query.Columns

/-!
# Projection to all columns

A record that is projected to all columns gets its primary attribute as the first one, and keeps
the others in their order. Projecting it again changes nothing.
-/

namespace OrgService

theorem firstOccurrences_of_nodup {α : Type} [DecidableEq α] {xs : List α} (h : xs.Nodup) :
    firstOccurrences xs = xs := by
  induction xs with
  | nil => rfl
  | cons x xs ih =>
      obtain ⟨hx, hxs⟩ := List.nodup_cons.mp h
      rw [firstOccurrences, ih hxs, List.filter_eq_self.mpr fun y hy ↦ ?_]
      exact decide_eq_true fun heq ↦ hx (heq ▸ hy)

namespace Record

variable {r : Record} {columns : ColumnSet} {policy : NullPolicy}

theorem nodup_selected (r : Record) (columns : ColumnSet) : (r.selected columns).Nodup := by
  unfold selected
  split
  · exact nodup_firstOccurrences _
  · exact columns.nodup

theorem keys_reportable_sublist (r : Record) (columns : ColumnSet) (policy : NullPolicy) :
    ((r.reportable columns policy).map Prod.fst).Sublist (r.selected columns) := by
  unfold reportable
  induction r.selected columns with
  | nil => exact .refl _
  | cons name names ih =>
      rw [List.filterMap_cons]
      split
      · exact ih.cons name
      · rename_i e he
        split at he
        · obtain rfl := Option.some.inj he
          exact ih.cons_cons name
        · contradiction

/-- The attributes of a projected record are the reportable ones, in their order. -/
theorem entries_project (r : Record) (columns : ColumnSet) (policy : NullPolicy) :
    (r.project columns policy).attributes.entries = r.reportable columns policy := by
  have hnodup := (r.nodup_selected columns).sublist (r.keys_reportable_sublist columns policy)
  exact OrderedMap.entries_insertAll (m := .empty) hnodup

/-- The primary attribute of a record comes first, and all of its attributes are present. -/
structure IsExported (r : Record) (policy : NullPolicy) : Prop where
  primary : r.attributes.keys.head? = some r.primaryAttribute
  present : ∀ e ∈ r.attributes.entries, e.2.isPresent policy.keepsNull = true

theorem lookup_of_mem {e : String × Value} (he : e ∈ r.attributes.entries) :
    r.lookup e.1 = e.2 := by
  rw [lookup, OrderedMap.get?_of_mem he]

theorem IsExported.selected_eq (h : r.IsExported policy) (hall : columns.all = true) :
    r.selected columns = r.attributes.keys := by
  have hnodup : r.attributes.keys.Nodup := r.attributes.nodup
  have hprimary := h.primary
  rw [selected, if_pos hall]
  cases hkeys : r.attributes.keys with
  | nil => simp [hkeys] at hprimary
  | cons name names =>
      rw [hkeys] at hprimary hnodup
      obtain rfl : name = r.primaryAttribute := Option.some.inj hprimary
      have hnew := (List.nodup_cons.mp hnodup).1
      rw [firstOccurrences, firstOccurrences_of_nodup hnodup, List.filter_cons_of_neg (by simp),
        List.filter_eq_self.mpr fun name hname ↦ ?_]
      exact decide_eq_true fun heq ↦ hnew (heq ▸ hname)

/-- All columns of an exported record are its attributes as they stand. -/
theorem IsExported.project_eq (h : r.IsExported policy) (hall : columns.all = true) :
    r.project columns policy = r := by
  have hreportable : r.reportable columns policy = r.attributes.entries := by
    rw [reportable, h.selected_eq hall, OrderedMap.keys, List.filterMap_map]
    refine (List.filterMap_congr fun e he ↦ ?_).trans List.filterMap_some
    simp only [Function.comp_apply, lookup_of_mem he]
    exact if_pos (h.present e he)
  rw [project, hreportable, OrderedMap.ofList_entries]

theorem isExported_project (hall : columns.all = true)
    (hprimary : (r.lookup r.primaryAttribute).isPresent policy.keepsNull = true) :
    (r.project columns policy).IsExported policy where
  primary := by
    rw [OrderedMap.keys, entries_project, reportable, selected, if_pos hall, firstOccurrences,
      List.filterMap_cons, if_pos hprimary]
    rfl
  present e he := by
    rw [entries_project] at he
    exact (mem_reportable.mp he).2.2

/-! ## Documents of projected records -/

theorem isPresent_retain_of_isDecodable {v : Value} (hv : v.IsDecodable) :
    v.isPresent NullPolicy.retain.keepsNull = true := by
  cases v with
  | absent => exact (Value.isDecodable_iff.mp hv).elim
  | _ => rfl

/-- Documents stand for whatever is read from a record that they stand for. -/
theorem IsDecodable.lookup (h : r.IsDecodable) {name : String}
    (hpresent : (r.lookup name).isPresent policy.keepsNull = true) :
    (r.lookup name).IsDecodable := by
  unfold Record.lookup at hpresent ⊢
  split
  · rename_i v hv
    exact h.isDecodable_value _ (OrderedMap.mem_of_get? hv)
  · rename_i hnone
    simp only [hnone] at hpresent
    split at hpresent
    · rename_i hname
      rw [if_pos hname]
      cases hid : r.id with
      | none => simp [hid, Value.isPresent] at hpresent
      | some id => exact Value.isDecodable_iff.mpr trivial
    · contradiction

theorem IsDecodable.isPresent_primary (h : r.IsDecodable) {id : Guid} (hid : r.id = some id) :
    (r.lookup r.primaryAttribute).isPresent NullPolicy.retain.keepsNull = true := by
  unfold Record.lookup
  split
  · rename_i v hv
    exact isPresent_retain_of_isDecodable (h.isDecodable_value _ (OrderedMap.mem_of_get? hv))
  · rw [if_pos rfl, hid]
    rfl

theorem IsDecodable.project (h : r.IsDecodable) (hall : columns.all = true) :
    (r.project columns policy).IsDecodable where
  logicalName_ne := h.logicalName_ne
  name_ne e he := by
    rw [entries_project] at he
    have hrequested := (mem_reportable.mp he).1
    rw [ColumnSet.Requests, if_pos hall] at hrequested
    rcases hrequested with hprimary | hmem
    · rw [hprimary, primaryAttribute, primaryAttributeOf]
      simp
    · obtain ⟨e', he', heq⟩ := List.mem_map.mp hmem
      exact heq ▸ h.name_ne e' he'
  isDecodable_value e he := by
    rw [entries_project] at he
    obtain ⟨-, hvalue, hpresent⟩ := mem_reportable.mp he
    exact hvalue ▸ h.lookup (hvalue ▸ hpresent)

end Record

end OrgService
