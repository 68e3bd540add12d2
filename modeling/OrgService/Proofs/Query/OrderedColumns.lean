import OrgService.Proofs.Query.Projectors

/-!
# Column sets as ordered sets

Whether names are given to a column set at once or in several calls, it lists them in the order in
which they first came. Column sets are equal just where their keys are, so that a hash of the key
goes with equality. Equal ones differ in this order alone: of any record they show the same.
-/

namespace OrgService

/-! ## First occurrences -/

theorem firstOccurrences_append {α : Type} [DecidableEq α] (xs ys : List α) :
    firstOccurrences (xs ++ ys) =
      firstOccurrences xs ++ (firstOccurrences ys).filter (· ∉ xs) := by
  induction xs with
  | nil => simp [firstOccurrences]
  | cons x xs ih =>
      simp only [List.cons_append, firstOccurrences, ih, List.filter_append, List.filter_filter]
      congr 2
      exact List.filter_congr fun y _ ↦ by simp

/-- Repetitions that are dropped early are dropped all the same. -/
theorem firstOccurrences_firstOccurrences_append {α : Type} [DecidableEq α] (xs ys : List α) :
    firstOccurrences (firstOccurrences xs ++ ys) = firstOccurrences (xs ++ ys) := by
  rw [firstOccurrences_append, firstOccurrences_append xs,
    firstOccurrences_of_nodup (nodup_firstOccurrences xs)]
  simp only [mem_firstOccurrences]

namespace ColumnSet

variable {c d : ColumnSet}

/-! ## Requests in several calls -/

/-- Requests the names of one call after the other. -/
def addEach (c : ColumnSet) (calls : List (List String)) : ColumnSet := calls.foldl add c

theorem add_ofList (names more : List String) (all : Bool) :
    (ofList names all).add more = ofList (names ++ more) all := by
  simp only [add, ofList, firstOccurrences_firstOccurrences_append]

/-- Requesting names in several calls is requesting them all at once. -/
theorem addEach_ofList (names : List String) (all : Bool) (calls : List (List String)) :
    (ofList names all).addEach calls = ofList (names ++ calls.flatten) all := by
  induction calls generalizing names with
  | nil => rw [List.flatten_nil, List.append_nil, addEach, List.foldl_nil]
  | cons more calls ih =>
      rw [addEach, List.foldl_cons, add_ofList, ← addEach, ih, List.flatten_cons,
        List.append_assoc]

/-! ## Equality -/

theorem equal_iff :
    c.equal d = true ↔ c.all = d.all ∧ ∀ name, name ∈ c.names ↔ name ∈ d.names := by
  simp only [equal, Bool.and_eq_true, beq_iff_eq, List.all_eq_true, List.contains_iff_mem,
    and_assoc, iff_def, forall_and]

theorem perm_iff : c.names.Perm d.names ↔ ∀ name, name ∈ c.names ↔ name ∈ d.names :=
  List.perm_ext_iff_of_nodup c.nodup d.nodup

/-- Sorted lists tell sets of names apart. -/
theorem mergeSort_names_eq_iff :
    c.names.mergeSort (· ≤ ·) = d.names.mergeSort (· ≤ ·) ↔ c.names.Perm d.names := by
  have hsorted : ∀ names : List String, (names.mergeSort (· ≤ ·)).Pairwise (· ≤ ·) := fun names ↦
    (List.pairwise_mergeSort (by simpa using fun _ _ _ ↦ String.le_trans)
      (by simpa using String.le_total) names).imp of_decide_eq_true
  constructor
  · intro heq
    have hperm := (List.mergeSort_perm c.names (· ≤ ·)).symm
    rw [heq] at hperm
    exact hperm.trans (List.mergeSort_perm _ _)
  · intro hperm
    exact List.Perm.eq_of_pairwise (fun _ _ _ _ ↦ String.le_antisymm) (hsorted _) (hsorted _)
      ((List.mergeSort_perm _ _).trans (hperm.trans (List.mergeSort_perm _ _).symm))

theorem key_eq_iff : c.key = d.key ↔ c.equal d = true := by
  rw [key, key, Prod.mk.injEq, mergeSort_names_eq_iff, equal_iff, perm_iff]

end ColumnSet

/-! ## What equal column sets show -/

namespace Record

/-- Of a record two column sets show the same attributes with the same values, in some order each,
be it as a result record or under an alias. -/
structure ShowsAlike (r : Record) (c d : ColumnSet) (policy : NullPolicy) (aliasName : Json) :
    Prop where
  logicalName_eq : (r.project c policy).logicalName = (r.project d policy).logicalName
  id_eq : (r.project c policy).id = (r.project d policy).id
  entries_perm :
    (r.project c policy).attributes.entries.Perm (r.project d policy).attributes.entries
  aliased_perm : (r.projectAliased aliasName c policy).Perm (r.projectAliased aliasName d policy)

variable {c d : ColumnSet}

theorem selected_perm (h : c.equal d = true) (r : Record) :
    (r.selected c).Perm (r.selected d) := by
  obtain ⟨hall, hnames⟩ := ColumnSet.equal_iff.mp h
  unfold selected
  rw [hall]
  split
  · exact .refl _
  · exact ColumnSet.perm_iff.mpr hnames

theorem reportable_perm (h : c.equal d = true) (r : Record) (policy : NullPolicy) :
    (r.reportable c policy).Perm (r.reportable d policy) :=
  (selected_perm h r).filterMap _

theorem showsAlike_of_equal (h : c.equal d = true) (r : Record) (policy : NullPolicy)
    (aliasName : Json) : r.ShowsAlike c d policy aliasName where
  logicalName_eq := rfl
  id_eq := rfl
  entries_perm := by
    rw [entries_project, entries_project]
    exact reportable_perm h r policy
  aliased_perm := (reportable_perm h r policy).map _

end Record

/-- A column set is an ordered set of the names that were requested: they stand in the order in
which they first came, but equality, keys and projections depend only on which names there are and
on the flag. -/
structure ColumnSet.IsOrderedSet (c : ColumnSet) (requested : List String) (all : Bool) :
    Prop where
  firstSeen : IsFirstSeen requested c.names
  eq_ofList : c = ofList requested all
  equal_iff : ∀ d, c.equal d = true ↔ c.all = d.all ∧ ∀ name, name ∈ c.names ↔ name ∈ d.names
  key_eq_iff : ∀ d : ColumnSet, c.key = d.key ↔ c.equal d = true
  showsAlike : ∀ d, c.equal d = true → ∀ (r : Record) (policy : NullPolicy) (aliasName : Json),
    r.ShowsAlike c d policy aliasName

theorem ColumnSet.isOrderedSet_addEach (names : List String) (all : Bool)
    (calls : List (List String)) :
    ((ofList names all).addEach calls).IsOrderedSet (names ++ calls.flatten) all where
  firstSeen := by
    rw [addEach_ofList]
    exact isFirstSeen_firstOccurrences _
  eq_ofList := addEach_ofList names all calls
  equal_iff _ := ColumnSet.equal_iff
  key_eq_iff _ := ColumnSet.key_eq_iff
  showsAlike _ h r policy aliasName := Record.showsAlike_of_equal h r policy aliasName

example : ((ColumnSet.ofList ["b", "a", "b"] false).addEach [["c", "a"], []]).names =
    ["b", "a", "c"] := by decide

end OrgService
