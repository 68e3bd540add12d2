import OrgService.Proofs.Query.Policies
import OrgService.Proofs.Query.Projection

/-!
# The two projections

A record shows the names that a column set selects, in order, as far as they are present. As a
result record and under an alias it shows the same names with the same values. The checks that are
made of every new record never refuse a result record.
-/

namespace OrgService

/-- Names without repetitions, in the order in which a list first has them. -/
structure IsFirstSeen (requested names : List String) : Prop where
  mem_iff : ∀ name, name ∈ names ↔ name ∈ requested
  ordered : names.Pairwise fun name name' ↦ requested.idxOf name < requested.idxOf name'

theorem isFirstSeen_firstOccurrences (requested : List String) :
    IsFirstSeen requested (firstOccurrences requested) where
  mem_iff _ := mem_firstOccurrences
  ordered := by
    induction requested with
    | nil => exact .nil
    | cons x xs ih =>
        rw [firstOccurrences, List.pairwise_cons]
        have hlater : ∀ y ∈ (firstOccurrences xs).filter (· ≠ x),
            (x :: xs).idxOf y = xs.idxOf y + 1 := by
          intro y hy
          have hne : y ≠ x := by simpa using (List.mem_filter.mp hy).2
          exact List.idxOf_cons_ne xs hne.symm
        constructor
        · intro y hy
          rw [List.idxOf_cons_self, hlater y hy]
          exact Nat.succ_pos _
        · refine (ih.filter _).imp_of_mem fun hy hz hlt ↦ ?_
          rw [hlater _ hy, hlater _ hz]
          exact Nat.succ_lt_succ hlt

theorem IsFirstSeen.nodup {requested names : List String} (h : IsFirstSeen requested names) :
    names.Nodup := by
  refine h.ordered.imp fun hlt ↦ ?_
  rintro rfl
  exact Nat.lt_irrefl _ hlt

/-- Only one list has the names in this order. -/
theorem IsFirstSeen.unique {requested names names' : List String}
    (h : IsFirstSeen requested names) (h' : IsFirstSeen requested names') : names = names' := by
  have hperm : names.Perm names' := (List.perm_ext_iff_of_nodup h.nodup h'.nodup).mpr
    fun name ↦ (h.mem_iff name).trans (h'.mem_iff name).symm
  exact hperm.eq_of_pairwise (fun _ _ _ _ hlt hlt' ↦ absurd hlt' (Nat.lt_asymm hlt))
    h.ordered h'.ordered

namespace Record

/-- A record has a name, and so do its attributes. -/
structure IsNamed (r : Record) : Prop where
  logicalName_ne : r.logicalName ≠ ""
  name_ne : ∀ name ∈ r.attributes.keys, name ≠ ""

theorem isNamed_of_make {logicalName : Json} {id : Option Guid}
    {attributes : List (Json × Value)} {r : Record} (h : make logicalName id attributes = .ok r) :
    r.IsNamed := by
  obtain ⟨name, hname, h⟩ := bind_eq_ok_iff.mp h
  obtain ⟨named, hnamed, h⟩ := bind_eq_ok_iff.mp h
  obtain rfl := Except.ok.inj h
  refine ⟨ne_of_checkLogicalName hname, fun name hmem ↦ ?_⟩
  obtain ⟨e, he, rfl⟩ := List.mem_map.mp hmem
  exact (mem_of_mem_nameAll hnamed e (OrderedMap.mem_of_get?_ofList (OrderedMap.get?_of_mem he))).1

/-- A new record whose attributes are assigned one after the other, with all checks. -/
def assemble (logicalName : String) (id : Option Guid) (columns : List (String × Value)) :
    Except RecordFault Record := do
  let blank ← make (.str logicalName) id []
  columns.foldlM (fun r e ↦ r.assign (.str e.1) e.2) blank

variable {r : Record} {columns : ColumnSet} {policy : NullPolicy} {name : String}

theorem foldlM_assign_eq_ok {entries : List (String × Value)} (h : ∀ e ∈ entries, e.1 ≠ "")
    (r : Record) :
    entries.foldlM (fun r e ↦ r.assign (.str e.1) e.2) r = .ok (r.setAll entries) := by
  induction entries generalizing r with
  | nil => rfl
  | cons e entries ih =>
      obtain ⟨he, hentries⟩ := List.forall_mem_cons.mp h
      have hassigned : r.assign (.str e.1) e.2 = .ok (r.set e.1 e.2) := by
        simp only [assign, attributeName?, if_neg he, set]
      rw [List.foldlM_cons, hassigned]
      exact ih hentries (r.set e.1 e.2)

theorem IsNamed.name_ne_of_lookup (hr : r.IsNamed) (h : r.lookup name ≠ .absent) : name ≠ "" := by
  unfold lookup at h
  split at h
  · rename_i v hv
    exact hr.name_ne name (List.mem_map_of_mem (OrderedMap.mem_of_get? hv))
  · split at h
    · rename_i hprimary
      rw [hprimary, primaryAttribute, primaryAttributeOf]
      simp
    · exact absurd rfl h

theorem IsNamed.assemble_eq (hr : r.IsNamed) {entries : List (String × Value)}
    (h : ∀ e ∈ entries, e.1 ≠ "") :
    assemble r.logicalName r.id entries = .ok ⟨r.logicalName, r.id, .ofList entries⟩ := by
  have hblank : make (.str r.logicalName) r.id [] = .ok ⟨r.logicalName, r.id, .empty⟩ := by
    simp only [make, checkLogicalName, if_neg hr.logicalName_ne, nameAll]
    rfl
  rw [assemble, hblank]
  exact (foldlM_assign_eq_ok h _).trans (congrArg Except.ok (setAll_eq _ entries))

/-! ## What a record shows -/

/-- The value that a record has under a name is present: it is not absent and, where nulls are
omitted, not null. -/
def Shows (r : Record) (policy : NullPolicy) (name : String) : Prop :=
  r.lookup name ≠ .absent ∧ (policy = .omit → r.lookup name ≠ .null)

theorem shows_iff :
    r.Shows policy name ↔ (r.lookup name).isPresent policy.keepsNull = true := by
  unfold Shows
  cases policy <;> cases r.lookup name <;> simp [Value.isPresent, NullPolicy.keepsNull]

/-- The names of what a record reports are those of the selected names that it shows. -/
theorem reportable_eq (r : Record) (columns : ColumnSet) (policy : NullPolicy) :
    r.reportable columns policy =
      ((r.reportable columns policy).map Prod.fst).map fun name ↦ (name, r.lookup name) := by
  rw [List.map_map]
  refine (List.map_id _).symm.trans (List.map_congr_left fun e he ↦ ?_)
  obtain ⟨-, hvalue, -⟩ := mem_reportable.mp he
  simp [hvalue]

theorem mem_keys_reportable :
    name ∈ (r.reportable columns policy).map Prod.fst ↔
      name ∈ r.selected columns ∧ r.Shows policy name := by
  rw [List.mem_map, shows_iff, mem_selected]
  constructor
  · rintro ⟨⟨name, v⟩, he, rfl⟩
    obtain ⟨hrequested, rfl, hpresent⟩ := mem_reportable.mp he
    exact ⟨hrequested, hpresent⟩
  · rintro ⟨hrequested, hpresent⟩
    exact ⟨(name, r.lookup name), mem_reportable.mpr ⟨hrequested, rfl, hpresent⟩, rfl⟩

theorem selected_of_all (r : Record) (requested : List String) :
    r.selected (.ofList requested true) =
      r.primaryAttribute :: r.attributes.keys.filter (· ≠ r.primaryAttribute) := by
  have hkeys : r.attributes.keys.Nodup := r.attributes.nodup
  have hall : (ColumnSet.ofList requested true).all = true := rfl
  rw [selected, if_pos hall, firstOccurrences, firstOccurrences_of_nodup hkeys]

theorem isFirstSeen_selected (r : Record) (requested : List String) :
    IsFirstSeen requested (r.selected (.ofList requested false)) :=
  isFirstSeen_firstOccurrences requested

theorem columnName_injective (aliasName : Json) : Function.Injective (columnName aliasName) := by
  intro name name' h
  exact (String.append_right_inj _).mp h

/-- The columns under an alias are those of the result record, each called by the alias and wrapped
along with its origin. -/
theorem projectAliased_eq (r : Record) (aliasName : Json) (columns : ColumnSet)
    (policy : NullPolicy) :
    r.projectAliased aliasName columns policy =
      ((r.reportable columns policy).map Prod.fst).map fun name ↦
        (columnName aliasName name, .aliased r.logicalName name (r.lookup name)) :=
  (congrArg (List.map _) (r.reportable_eq columns policy)).trans List.map_map

theorem nodup_keys_projectAliased (r : Record) (aliasName : Json) (columns : ColumnSet)
    (policy : NullPolicy) :
    ((r.projectAliased aliasName columns policy).map Prod.fst).Nodup := by
  have hshown := (r.nodup_selected columns).sublist (r.keys_reportable_sublist columns policy)
  rw [projectAliased_eq, List.map_map]
  exact hshown.map (columnName_injective aliasName)

theorem IsNamed.assemble_reportable (hr : r.IsNamed) (columns : ColumnSet) (policy : NullPolicy) :
    assemble r.logicalName r.id (r.reportable columns policy) =
      .ok (r.project columns policy) := by
  refine hr.assemble_eq fun e he ↦ ?_
  obtain ⟨-, hvalue, hpresent⟩ := mem_reportable.mp he
  refine hr.name_ne_of_lookup fun habsent ↦ ?_
  rw [← hvalue, habsent] at hpresent
  contradiction

/-- The names that a projection picks from a record, each once: those requested, in the order in
which they were first requested, or the primary attribute and then all others. -/
structure IsSelection (r : Record) (requested : List String) (all : Bool)
    (names : List String) : Prop where
  nodup : names.Nodup
  firstSeen : all = false → IsFirstSeen requested names
  everything : all = true →
    names = r.primaryAttribute :: r.attributes.keys.filter (· ≠ r.primaryAttribute)

theorem isSelection_selected (r : Record) (requested : List String) (all : Bool) :
    r.IsSelection requested all (r.selected (.ofList requested all)) where
  nodup := r.nodup_selected _
  firstSeen := by
    rintro rfl
    exact r.isFirstSeen_selected requested
  everything := by
    rintro rfl
    exact r.selected_of_all requested

/-- Of the selected names a result record holds those that are shown, in their order and with the
values that the record has. Under an alias the same names have the same values. -/
structure ProjectsExactly (r : Record) (columns : ColumnSet) (policy : NullPolicy)
    (aliasName : Json) (names shown : List String) : Prop where
  sublist : shown.Sublist names
  mem_iff : ∀ name, name ∈ shown ↔ name ∈ names ∧ r.Shows policy name
  passes : assemble r.logicalName r.id (r.reportable columns policy) =
    .ok (r.project columns policy)
  logicalName_eq : (r.project columns policy).logicalName = r.logicalName
  id_eq : (r.project columns policy).id = r.id
  entries_eq : (r.project columns policy).attributes.entries =
    shown.map fun name ↦ (name, r.lookup name)
  aliased_eq : r.projectAliased aliasName columns policy = shown.map fun name ↦
    (aliasName.plain ++ "." ++ name, .aliased r.logicalName name (r.lookup name))
  nodup_aliased : ((r.projectAliased aliasName columns policy).map Prod.fst).Nodup

theorem IsNamed.projectsExactly (hr : r.IsNamed) (columns : ColumnSet) (policy : NullPolicy)
    (aliasName : Json) :
    r.ProjectsExactly columns policy aliasName (r.selected columns)
      ((r.reportable columns policy).map Prod.fst) where
  sublist := r.keys_reportable_sublist columns policy
  mem_iff _ := mem_keys_reportable
  passes := hr.assemble_reportable columns policy
  logicalName_eq := rfl
  id_eq := rfl
  entries_eq := (r.entries_project columns policy).trans (r.reportable_eq columns policy)
  aliased_eq := r.projectAliased_eq aliasName columns policy
  nodup_aliased := r.nodup_keys_projectAliased aliasName columns policy

theorem ProjectsExactly.shown_eq {aliasName : Json} {names shown : List String}
    (h : r.ProjectsExactly columns policy aliasName names shown) :
    shown = (r.project columns policy).attributes.keys := by
  rw [OrderedMap.keys, h.entries_eq, List.map_map]
  exact (List.map_id _).symm

/-- The two projections show the same names of a record, and the checks that are made of every new
record refuse none of them. -/
theorem project_exact (hr : r.IsNamed) (requested : List String) (all : Bool)
    (policy : NullPolicy) (aliasName : Json) :
    ∃ names shown, r.IsSelection requested all names ∧
      r.ProjectsExactly (.ofList requested all) policy aliasName names shown := by
  have hselected := r.isSelection_selected requested all
  have hprojected := hr.projectsExactly (.ofList requested all) policy aliasName
  exact ⟨_, _, hselected, hprojected⟩

/-- A contact whose primary attribute is stored as null, next to a name and no telephone. -/
def contactWithoutPhone : Record :=
  ⟨"contact", some (Guid.ofNat 1),
    .ofList [("name", .text "Ann"), ("contactid", .null), ("phone", .null)]⟩

/-- Of two requested columns it shows the one that is not null. With all columns and their nulls it
shows the primary attribute first. -/
theorem project_exact_contact :
    contactWithoutPhone.IsNamed ∧
      contactWithoutPhone.IsSelection ["phone", "name", "phone"] false ["phone", "name"] ∧
      contactWithoutPhone.ProjectsExactly (.ofList ["phone", "name", "phone"] false) .omit
        (.str "c") ["phone", "name"] ["name"] ∧
      contactWithoutPhone.IsSelection [] true ["contactid", "name", "phone"] ∧
      contactWithoutPhone.ProjectsExactly (.ofList [] true) .retain (.str "c")
        ["contactid", "name", "phone"] ["contactid", "name", "phone"] := by
  have hmake : make (.str "contact") (some (Guid.ofNat 1)) [(.str "name", .text "Ann"),
      (.str "contactid", .null), (.str "phone", .null)] = .ok contactWithoutPhone := rfl
  have hnamed := isNamed_of_make hmake
  obtain ⟨names, shown, hselected, hprojected⟩ :=
    project_exact hnamed ["phone", "name", "phone"] false .omit (.str "c")
  obtain rfl : names = ["phone", "name"] :=
    (hselected.firstSeen rfl).unique (isFirstSeen_firstOccurrences _)
  obtain rfl : shown = ["name"] := hprojected.shown_eq
  obtain ⟨names, shown, hselected', hprojected'⟩ :=
    project_exact hnamed [] true .retain (.str "c")
  obtain rfl : names = ["contactid", "name", "phone"] := hselected'.everything rfl
  obtain rfl : shown = ["contactid", "name", "phone"] := hprojected'.shown_eq
  exact ⟨hnamed, hselected, hprojected, hselected', hprojected'⟩

end Record

end OrgService
