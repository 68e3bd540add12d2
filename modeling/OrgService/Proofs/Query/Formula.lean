import Mathlib.Data.List.Basic
import OrgService.Proofs.Query.Clash

/-!
# Filters as formulas

A filter is a formula over its conditions once the parts without conditions are taken away, and
every condition is tested whatever the others say. So a filter may be rearranged in the usual ways,
at any depth, without a change of its answer; only which fault is met first depends on the order.
-/

namespace OrgService

namespace Connective

variable {k : Connective} {xs ys zs : List Bool}

theorem combine_perm (h : xs.Perm ys) : k.combine xs = k.combine ys := by
  cases k with
  | and => exact Bool.eq_iff_iff.mpr (by simp [combine, h.mem_iff])
  | or => exact Bool.eq_iff_iff.mpr (by simp [combine, h.mem_iff])

@[simp] theorem combine_singleton (b : Bool) : k.combine [b] = b := by
  cases k <;> simp [combine]

/-- What one connective combines may be combined in two steps. -/
theorem combine_merge : k.combine (xs ++ k.combine ys :: zs) = k.combine (xs ++ (ys ++ zs)) := by
  cases k <;> simp [combine]

end Connective

namespace Filter

mutual

/-- The filter without all the filters in it that have no conditions at any depth. -/
def pruned : Filter → Filter
  | ⟨connective, conditions, filters⟩ => ⟨connective, conditions, prunedEach filters⟩

def prunedEach : List Filter → List Filter
  | [] => []
  | f :: fs => if f.allConditions.isEmpty then prunedEach fs else f.pruned :: prunedEach fs

end

mutual

/-- The value of a filter as a formula, given the truth of its conditions. -/
def value (truth : Condition → Bool) : Filter → Bool
  | ⟨.and, conditions, filters⟩ => conditions.all truth && valueOfAll truth filters
  | ⟨.or, conditions, filters⟩ => conditions.any truth || valueOfAny truth filters

def valueOfAll (truth : Condition → Bool) : List Filter → Bool
  | [] => true
  | f :: fs => f.value truth && valueOfAll truth fs

def valueOfAny (truth : Condition → Bool) : List Filter → Bool
  | [] => false
  | f :: fs => f.value truth || valueOfAny truth fs

end

/-- A filter without conditions at any depth is true of all records. -/
def formula (truth : Condition → Bool) (f : Filter) : Bool :=
  f.allConditions.isEmpty || f.pruned.value truth

/-- The fault of the first condition that cannot be decided, own conditions before nested ones. -/
def firstFault? (r : Record) (f : Filter) : Option Fault :=
  f.allConditions.findSome? fun c ↦ fault? (c.holds r)

variable {r : Record} {truth : Condition → Bool} {k : Connective} {cs cs' : List Condition}
  {f g : Filter} {fs gs : List Filter}

/-! ## The formula -/

theorem valueOfAll_eq (fs : List Filter) : valueOfAll truth fs = fs.all (value truth) := by
  induction fs with
  | nil => rfl
  | cons f fs ih => rw [valueOfAll, ih, List.all_cons]

theorem valueOfAny_eq (fs : List Filter) : valueOfAny truth fs = fs.any (value truth) := by
  induction fs with
  | nil => rfl
  | cons f fs ih => rw [valueOfAny, ih, List.any_cons]

/-- Under an and all parts must be true, under an or one of them. -/
theorem value_eq_true_iff : value truth ⟨k, cs, fs⟩ = true ↔ match k with
    | .and => (∀ c ∈ cs, truth c = true) ∧ ∀ f ∈ fs, f.value truth = true
    | .or => (∃ c ∈ cs, truth c = true) ∨ ∃ f ∈ fs, f.value truth = true := by
  cases k with
  | and => simp [value, valueOfAll_eq]
  | or => simp [value, valueOfAny_eq]

/-- The connectives of tests are those of formulas. -/
theorem value_eq_combine :
    value truth ⟨k, cs, fs⟩ = k.combine (cs.map truth ++ fs.map (value truth)) := by
  rw [Bool.eq_iff_iff, value_eq_true_iff]
  cases k with
  | and => simp [Connective.combine]
  | or => simp [Connective.combine]

theorem allConditions_of_isEmpty (h : f.isEmpty = true) : f.allConditions = [] :=
  List.eq_nil_iff_forall_not_mem.mpr (not_mem_allConditions_of_isEmpty h)

theorem isEmpty_allConditions (f : Filter) : f.allConditions.isEmpty = f.isEmpty := by
  rw [Bool.eq_iff_iff, List.isEmpty_iff]
  refine ⟨fun h ↦ ?_, allConditions_of_isEmpty⟩
  induction f using tree_induction with
  | filter f ih =>
      obtain ⟨k, cs, fs⟩ := f
      obtain ⟨hcs, hfs⟩ := List.append_eq_nil_iff.mp h
      rw [isEmpty, hcs, List.isEmpty_nil, Bool.true_and, allEmpty_iff]
      intro g hg
      refine ih g hg (List.eq_nil_iff_forall_not_mem.mpr fun c hc ↦ ?_)
      exact List.not_mem_nil (hfs ▸ mem_allConditionsEach.mpr ⟨g, hg, hc⟩)

/-- The filters that count, with their values. -/
def nestedValues (truth : Condition → Bool) (fs : List Filter) : List Bool :=
  (fs.filter fun f ↦ !f.isEmpty).map fun f ↦ f.pruned.value truth

theorem map_value_prunedEach (fs : List Filter) :
    (prunedEach fs).map (value truth) = nestedValues truth fs := by
  induction fs with
  | nil => rfl
  | cons f fs ih =>
      rw [prunedEach, isEmpty_allConditions]
      cases hempty : f.isEmpty with
      | true => simpa [nestedValues, hempty] using ih
      | false => simpa [nestedValues, hempty] using ih

theorem value_pruned :
    (pruned ⟨k, cs, fs⟩).value truth = k.combine (cs.map truth ++ nestedValues truth fs) := by
  rw [pruned, value_eq_combine, map_value_prunedEach]

theorem formula_of_isEmpty (h : f.isEmpty = true) : f.formula truth = true := by
  rw [formula, isEmpty_allConditions, h, Bool.true_or]

theorem formula_of_not_isEmpty (h : f.isEmpty = false) :
    f.formula truth = f.pruned.value truth := by
  rw [formula, isEmpty_allConditions, h, Bool.false_or]

@[simp] theorem nestedValues_append (fs gs : List Filter) :
    nestedValues truth (fs ++ gs) = nestedValues truth fs ++ nestedValues truth gs := by
  simp [nestedValues]

@[simp] theorem nestedValues_cons_of_empty (h : f.isEmpty = true) :
    nestedValues truth (f :: fs) = nestedValues truth fs := by
  simp [nestedValues, h]

@[simp] theorem nestedValues_cons_of_not_empty (h : f.isEmpty = false) :
    nestedValues truth (f :: fs) = f.pruned.value truth :: nestedValues truth fs := by
  simp [nestedValues, h]

theorem nestedValues_of_allEmpty (h : allEmpty fs = true) : nestedValues truth fs = [] := by
  simpa [nestedValues] using allEmpty_iff.mp h

theorem nestedValues_perm (h : fs.Perm gs) :
    (nestedValues truth fs).Perm (nestedValues truth gs) :=
  (h.filter _).map _

/-! ## Tests follow the formula -/

def passes (r : Record) (c : Condition) : Bool := c.holds r = .ok true

theorem fault?_holdsEach (h : ∀ f ∈ fs, fault? (f.holds r) = f.firstFault? r) :
    fault? (holdsEach r fs) = (allConditionsEach fs).findSome? fun c ↦ fault? (c.holds r) := by
  induction fs with
  | nil => rfl
  | cons f fs ih =>
      obtain ⟨hf, hfs⟩ := List.forall_mem_cons.mp h
      rw [holdsEach, allConditionsEach, List.findSome?_append, ← ih hfs]
      cases hempty : f.isEmpty with
      | true => simp [allConditions_of_isEmpty hempty]
      | false =>
          rw [if_neg Bool.false_ne_true]
          have hrest : ∀ b, f.holds r = .ok b →
              fault? (holdsEach r fs >>= fun bs ↦ .ok (b :: bs)) = fault? (holdsEach r fs) := by
            intro b _
            cases holdsEach r fs <;> rfl
          rw [fault?_bind hrest, hf, firstFault?]

/-- No test is left out: a filter fails as the first condition that cannot be decided. -/
theorem fault?_holds (r : Record) (f : Filter) : fault? (f.holds r) = f.firstFault? r := by
  induction f using tree_induction with
  | filter f ih =>
      cases hempty : f.isEmpty with
      | true => simp [holds_of_isEmpty hempty, firstFault?, allConditions_of_isEmpty hempty]
      | false =>
          have hnested : ∀ own, f.conditions.mapM (Condition.holds r) = .ok own →
              fault? (do
                let nested ← holdsEach r f.filters
                .ok (f.connective.combine (own ++ nested))) =
              (allConditionsEach f.filters).findSome? fun c ↦ fault? (c.holds r) := by
            intro own _
            rw [← fault?_holdsEach ih]
            cases holdsEach r f.filters <;> rfl
          rw [holds_of_not_isEmpty hempty, fault?_bind hnested, fault?_mapM, firstFault?]
          cases f
          rw [allConditions, List.findSome?_append]

theorem exists_condition_of_holds_eq_error {fault : Fault} (h : f.holds r = .error fault) :
    ∃ c ∈ f.allConditions, c.holds r = .error fault := by
  have hfirst : f.firstFault? r = some fault := by
    rw [← fault?_holds]
    exact fault?_eq_some_iff.mpr h
  obtain ⟨c, hc, hfault⟩ := List.exists_of_findSome?_eq_some hfirst
  exact ⟨c, hc, fault?_eq_some_iff.mp hfault⟩

theorem mapM_holds_eq_ok {own : List Bool} (h : cs.mapM (Condition.holds r) = .ok own) :
    own = cs.map (passes r) := by
  induction cs generalizing own with
  | nil =>
      obtain rfl := Except.ok.inj h
      rfl
  | cons c cs ih =>
      rw [List.mapM_cons] at h
      obtain ⟨b, hb, h⟩ := bind_eq_ok_iff.mp h
      obtain ⟨bs, hbs, h⟩ := bind_eq_ok_iff.mp h
      obtain rfl := Except.ok.inj h
      cases b <;> simp [passes, hb, ih hbs]

theorem holdsEach_eq_ok {nested : List Bool} (h : holdsEach r fs = .ok nested)
    (hvalue : ∀ f ∈ fs, ∀ b, f.holds r = .ok b → b = f.formula (passes r)) :
    nested = nestedValues (passes r) fs := by
  induction fs generalizing nested with
  | nil =>
      obtain rfl := Except.ok.inj h
      rfl
  | cons f fs ih =>
      obtain ⟨hf, hfs⟩ := List.forall_mem_cons.mp hvalue
      rw [holdsEach] at h
      cases hempty : f.isEmpty with
      | true =>
          rw [hempty, if_pos rfl] at h
          rw [nestedValues_cons_of_empty hempty]
          exact ih h hfs
      | false =>
          rw [hempty, if_neg Bool.false_ne_true] at h
          obtain ⟨b, hb, h⟩ := bind_eq_ok_iff.mp h
          obtain ⟨bs, hbs, h⟩ := bind_eq_ok_iff.mp h
          obtain rfl := Except.ok.inj h
          rw [nestedValues_cons_of_not_empty hempty, ih hbs hfs, hf b hb,
            formula_of_not_isEmpty hempty]

/-- The answer of a filter is the value of its formula. -/
theorem eq_formula_of_holds {b : Bool} (h : f.holds r = .ok b) : b = f.formula (passes r) := by
  induction f using tree_induction generalizing b with
  | filter f ih =>
      cases hempty : f.isEmpty with
      | true =>
          rw [holds_of_isEmpty hempty] at h
          rw [formula_of_isEmpty hempty]
          exact (Except.ok.inj h).symm
      | false =>
          rw [holds_of_not_isEmpty hempty] at h
          obtain ⟨own, hown, h⟩ := bind_eq_ok_iff.mp h
          obtain ⟨nested, hnested, h⟩ := bind_eq_ok_iff.mp h
          obtain rfl := Except.ok.inj h
          rw [mapM_holds_eq_ok hown, holdsEach_eq_ok hnested fun g hg b ↦ ih g hg,
            formula_of_not_isEmpty hempty]
          cases f
          rw [value_pruned]

theorem holds_eq (r : Record) (f : Filter) :
    f.holds r = match f.firstFault? r with
      | some fault => .error fault
      | none => .ok (f.formula (passes r)) := by
  rw [← fault?_holds]
  cases h : f.holds r with
  | error fault => rfl
  | ok b => exact congrArg Except.ok (eq_formula_of_holds h)

/-! ## Rearranging filters -/

/-- Two filters come from each other by harmless steps: conditions or nested filters change places,
filters without conditions come or go, a filter becomes the only part of another one, and a nested
filter is merged into one with the same connective, all of it at any depth. -/
inductive Rearranges : Filter → Filter → Prop
  | conditions {k : Connective} {cs cs' : List Condition} {fs : List Filter} (h : cs.Perm cs') :
    Rearranges ⟨k, cs, fs⟩ ⟨k, cs', fs⟩
  | filters {k : Connective} {cs : List Condition} {fs gs : List Filter} (h : fs.Perm gs) :
    Rearranges ⟨k, cs, fs⟩ ⟨k, cs, gs⟩
  | empty {k : Connective} {cs : List Condition} {fs : List Filter} {e : Filter}
    (h : e.allConditions = []) : Rearranges ⟨k, cs, fs⟩ ⟨k, cs, e :: fs⟩
  | wrap (k : Connective) (f : Filter) : Rearranges f ⟨k, [], [f]⟩
  | merge (k : Connective) (cs cs' : List Condition) (fs gs : List Filter) :
    Rearranges ⟨k, cs, ⟨k, cs', fs⟩ :: gs⟩ ⟨k, cs ++ cs', fs ++ gs⟩
  | within {k : Connective} {cs : List Condition} {f g : Filter} (before after : List Filter)
    (h : Rearranges f g) : Rearranges ⟨k, cs, before ++ f :: after⟩ ⟨k, cs, before ++ g :: after⟩
  | symm {f g : Filter} (h : Rearranges f g) : Rearranges g f
  | trans {f g g' : Filter} (h : Rearranges f g) (h' : Rearranges g g') : Rearranges f g'

/-- Filters with the same conditions and the same formula. -/
structure Agrees (f g : Filter) : Prop where
  empty : f.isEmpty = g.isEmpty
  conditions : f.allConditions.Perm g.allConditions
  value : f.isEmpty = false → ∀ truth, f.pruned.value truth = g.pruned.value truth

theorem allConditionsEach_append (fs gs : List Filter) :
    allConditionsEach (fs ++ gs) = allConditionsEach fs ++ allConditionsEach gs := by
  induction fs with
  | nil => rfl
  | cons f fs ih => simp [allConditionsEach, ih]

theorem allConditionsEach_perm (h : fs.Perm gs) :
    (allConditionsEach fs).Perm (allConditionsEach gs) := by
  induction h with
  | nil => exact .nil
  | cons f _ ih => exact ih.append_left _
  | swap f g fs =>
      simp only [allConditionsEach, ← List.append_assoc]
      exact List.perm_append_comm.append_right _
  | trans _ _ ih ih' => exact ih.trans ih'

theorem allEmpty_append (fs gs : List Filter) :
    allEmpty (fs ++ gs) = (allEmpty fs && allEmpty gs) := by
  induction fs with
  | nil => rfl
  | cons f fs ih => simp [allEmpty, ih, Bool.and_assoc]

namespace Agrees

theorem ofConditions (h : cs.Perm cs') : Agrees ⟨k, cs, fs⟩ ⟨k, cs', fs⟩ where
  empty := by
    have hnone : cs.isEmpty = cs'.isEmpty :=
      Bool.eq_iff_iff.mpr (by simp [List.isEmpty_iff, ← List.length_eq_zero_iff, h.length_eq])
    rw [isEmpty, isEmpty, hnone]
  conditions := h.append_right _
  value _ truth := by
    rw [value_pruned, value_pruned]
    exact Connective.combine_perm ((h.map truth).append_right _)

theorem ofFilters (h : fs.Perm gs) : Agrees ⟨k, cs, fs⟩ ⟨k, cs, gs⟩ where
  empty := by
    have hall : allEmpty fs = allEmpty gs :=
      Bool.eq_iff_iff.mpr (by simp [allEmpty_iff, h.mem_iff])
    rw [isEmpty, isEmpty, hall]
  conditions := (allConditionsEach_perm h).append_left _
  value _ truth := by
    rw [value_pruned, value_pruned]
    exact Connective.combine_perm ((nestedValues_perm h).append_left _)

theorem ofEmpty {e : Filter} (h : e.allConditions = []) :
    Agrees ⟨k, cs, fs⟩ ⟨k, cs, e :: fs⟩ := by
  have hempty : e.isEmpty = true := by rw [← isEmpty_allConditions, h, List.isEmpty_nil]
  refine ⟨?_, ?_, fun _ truth ↦ ?_⟩
  · simp [isEmpty, allEmpty, hempty]
  · simp [allConditions, allConditionsEach, h]
  · rw [value_pruned, value_pruned, nestedValues_cons_of_empty hempty]

theorem ofWrap (k : Connective) (f : Filter) : Agrees f ⟨k, [], [f]⟩ where
  empty := by simp [isEmpty, allEmpty]
  conditions := by simp [allConditions, allConditionsEach]
  value h truth := by
    rw [value_pruned, nestedValues_cons_of_not_empty h]
    exact (Connective.combine_singleton _).symm

theorem ofMerge (k : Connective) (cs cs' : List Condition) (fs gs : List Filter) :
    Agrees ⟨k, cs, ⟨k, cs', fs⟩ :: gs⟩ ⟨k, cs ++ cs', fs ++ gs⟩ where
  empty := by cases cs <;> simp [isEmpty, allEmpty, allEmpty_append, Bool.and_assoc]
  conditions := by simp [allConditions, allConditionsEach, allConditionsEach_append]
  value _ truth := by
    rw [value_pruned, value_pruned, nestedValues_append, List.map_append, List.append_assoc]
    cases hempty : isEmpty ⟨k, cs', fs⟩ with
    | true =>
        obtain ⟨hcs', hfs⟩ := Bool.and_eq_true_iff.mp (isEmpty.eq_1 k cs' fs ▸ hempty)
        rw [nestedValues_cons_of_empty hempty, List.isEmpty_iff.mp hcs',
          nestedValues_of_allEmpty hfs]
        rfl
    | false =>
        rw [nestedValues_cons_of_not_empty hempty, value_pruned, Connective.combine_merge,
          List.append_assoc]

theorem within (before after : List Filter) (h : Agrees f g) :
    Agrees ⟨k, cs, before ++ f :: after⟩ ⟨k, cs, before ++ g :: after⟩ where
  empty := by simp only [isEmpty, allEmpty_append, allEmpty, h.empty]
  conditions := by
    simp only [allConditions, allConditionsEach_append, allConditionsEach]
    exact ((h.conditions.append_right _).append_left _).append_left _
  value _ truth := by
    rw [value_pruned, value_pruned, nestedValues_append, nestedValues_append]
    cases hempty : f.isEmpty with
    | true => rw [nestedValues_cons_of_empty hempty, nestedValues_cons_of_empty (h.empty ▸ hempty)]
    | false =>
        rw [nestedValues_cons_of_not_empty hempty,
          nestedValues_cons_of_not_empty (h.empty ▸ hempty), h.value hempty]

theorem symm (h : Agrees f g) : Agrees g f where
  empty := h.empty.symm
  conditions := h.conditions.symm
  value hg truth := (h.value (h.empty.trans hg) truth).symm

theorem trans {g' : Filter} (h : Agrees f g) (h' : Agrees g g') : Agrees f g' where
  empty := h.empty.trans h'.empty
  conditions := h.conditions.trans h'.conditions
  value hf truth := (h.value hf truth).trans (h'.value (h.empty ▸ hf) truth)

theorem formula_eq (h : Agrees f g) (truth : Condition → Bool) :
    f.formula truth = g.formula truth := by
  cases hempty : f.isEmpty with
  | true => rw [formula_of_isEmpty hempty, formula_of_isEmpty (h.empty ▸ hempty)]
  | false =>
      rw [formula_of_not_isEmpty hempty, formula_of_not_isEmpty (h.empty ▸ hempty),
        h.value hempty]

theorem firstFault?_eq_none_iff (h : Agrees f g) (r : Record) :
    f.firstFault? r = none ↔ g.firstFault? r = none := by
  simp only [firstFault?, List.findSome?_eq_none_iff, h.conditions.mem_iff]

end Agrees

theorem Rearranges.agrees (h : Rearranges f g) : Agrees f g := by
  induction h with
  | conditions h => exact .ofConditions h
  | filters h => exact .ofFilters h
  | empty h => exact .ofEmpty h
  | wrap k f => exact .ofWrap k f
  | merge k cs cs' fs gs => exact .ofMerge k cs cs' fs gs
  | within before after _ ih => exact ih.within before after
  | symm _ ih => exact ih.symm
  | trans _ _ ih ih' => exact ih.trans ih'

/-- A filter fails as the first of all its conditions that fails, and else has the value of its
formula. Rearranged, it has the same answer, or none in both forms. -/
theorem holds_as_formula (r : Record) (f : Filter) :
    (f.holds r = match f.firstFault? r with
      | some fault => .error fault
      | none => .ok (f.formula (passes r))) ∧
    ∀ g, Rearranges f g → ∀ b, f.holds r = .ok b ↔ g.holds r = .ok b := by
  refine ⟨holds_eq r f, fun g h b ↦ ?_⟩
  have hagrees := h.agrees
  have hnone := hagrees.firstFault?_eq_none_iff r
  rw [holds_eq, holds_eq, hagrees.formula_eq]
  cases hf : f.firstFault? r with
  | none => rw [hnone.mp hf]
  | some fault =>
      obtain ⟨fault', hg⟩ := Option.ne_none_iff_exists'.mp (mt hnone.mpr (by simp [hf]))
      simp [hg]

/-- Without a size or of a middle one, said in a disjunction within a disjunction, next to a filter
that has no conditions. -/
def scatteredFilter : Filter :=
  ⟨.or, [⟨.str "size", .null, []⟩],
    [.empty, ⟨.or, [], [⟨.and, [⟨.str "size", .greaterThan, [.number (.integer 5)]⟩,
      ⟨.str "size", .lessThan, [.number (.integer 9)]⟩], []⟩]⟩]⟩

def gatheredFilter : Filter :=
  ⟨.and, [], [⟨.or, [⟨.str "size", .null, []⟩],
    [⟨.and, [⟨.str "size", .lessThan, [.number (.integer 9)]⟩,
      ⟨.str "size", .greaterThan, [.number (.integer 5)]⟩], []⟩]⟩]⟩

theorem rearranges_gatheredFilter : Rearranges scatteredFilter gatheredFilter := by
  apply Rearranges.trans (Rearranges.empty rfl).symm
  apply Rearranges.trans (.merge _ _ _ _ _)
  apply Rearranges.trans (.within [] [] (.conditions (.swap _ _ _)))
  exact .wrap .and _

/-- Gathered in another order, the conditions give the same answer: yes for a middle size, and no
for a small one although one of two conditions under the and is met. -/
theorem holds_as_formula_example :
    let task (size : Int) : Record := ⟨"task", none, .ofList [("size", .number (.integer size))]⟩
    Rearranges scatteredFilter gatheredFilter ∧
      scatteredFilter.holds (task 7) = .ok true ∧ gatheredFilter.holds (task 7) = .ok true ∧
      scatteredFilter.holds (task 3) = .ok false ∧ gatheredFilter.holds (task 3) = .ok false := by
  intro task
  have hmiddle : scatteredFilter.holds (task 7) = .ok true := by decide +kernel
  have hsmall : scatteredFilter.holds (task 3) = .ok false := by
    have hformula := (holds_as_formula (task 3) scatteredFilter).1
    have hnone : scatteredFilter.firstFault? (task 3) = none := by decide +kernel
    have hvalue : scatteredFilter.formula (passes (task 3)) = false := by decide +kernel
    rw [hformula, hnone, hvalue]
  have hsame := fun size ↦ (holds_as_formula (task size) scatteredFilter).2 _
    rearranges_gatheredFilter
  exact ⟨rearranges_gatheredFilter, hmiddle, (hsame 7 true).mp hmiddle, hsmall,
    (hsame 3 false).mp hsmall⟩

end Filter

end OrgService
