import OrgService.Query.Plan

/-!
# Link forests

The links of a query form a forest. Planning visits it depth first and stops at the first alias
that repeats an earlier one. Here the visit is split in two: the links are numbered, which always
succeeds, and then their aliases are checked one after the other.
-/

namespace OrgService

namespace Link

/-- Induction on a forest: the links below its first link and the links beside it are forests. -/
theorem forest_induction {motive : List Link → Prop} (nil : motive [])
    (cons : ∀ l ls, motive l.links → motive ls → motive (l :: ls)) : ∀ ls, motive ls
  | [] => nil
  | l :: ls =>
      have below : sizeOf l.links < sizeOf (l :: ls) := by
        cases l
        simp only [List.cons.sizeOf_spec, mk.sizeOf_spec]
        omega
      cons l ls (forest_induction nil cons l.links) (forest_induction nil cons ls)

mutual

/-- A link and the links below it, depth first. -/
def preorder : Link → List Link
  | link@⟨_, _, _, _, _, _, _, _, links⟩ => link :: preorderEach links

def preorderEach : List Link → List Link
  | [] => []
  | l :: ls => preorder l ++ preorderEach ls

end

@[simp] theorem preorderEach_nil : preorderEach [] = [] := rfl

@[simp] theorem preorderEach_cons (l : Link) (ls : List Link) :
    preorderEach (l :: ls) = l :: (preorderEach l.links ++ preorderEach ls) := by
  cases l
  simp only [preorderEach, preorder, List.cons_append]

mutual

/-- A link and the links below it as planned after `n` others, whatever their aliases. -/
def numbered (source : Option Json) (n : Nat) : Link → List PlannedLink
  | link@⟨_, _, _, _, _, _, _, _, links⟩ =>
    ⟨link, link.effectiveAlias (n + 1), source⟩ ::
      numberedEach (some (link.effectiveAlias (n + 1))) (n + 1) links

def numberedEach (source : Option Json) (n : Nat) : List Link → List PlannedLink
  | [] => []
  | l :: ls => numbered source n l ++ numberedEach source (n + (preorder l).length) ls

end

@[simp] theorem numberedEach_nil (source : Option Json) (n : Nat) :
    numberedEach source n [] = [] := rfl

@[simp] theorem numberedEach_cons (source : Option Json) (n : Nat) (l : Link) (ls : List Link) :
    numberedEach source n (l :: ls) =
      ⟨l, l.effectiveAlias (n + 1), source⟩ ::
        (numberedEach (some (l.effectiveAlias (n + 1))) (n + 1) l.links ++
          numberedEach source (n + 1 + (preorderEach l.links).length) ls) := by
  cases l
  simp only [numberedEach, numbered, preorder, List.cons_append, List.length_cons,
    Nat.add_assoc, Nat.add_comm 1]

@[simp] theorem map_link_numberedEach (source : Option Json) (n : Nat) (ls : List Link) :
    (numberedEach source n ls).map PlannedLink.link = preorderEach ls := by
  induction ls using forest_induction generalizing source n with
  | nil => rfl
  | cons l ls below beside => simp [below, beside]

theorem link_mem_of_mem_numberedEach {source : Option Json} {n : Nat} {ls : List Link}
    {p : PlannedLink} (hp : p ∈ numberedEach source n ls) : p.link ∈ preorderEach ls := by
  rw [← map_link_numberedEach source n ls]
  exact List.mem_map_of_mem hp

@[simp] theorem length_numberedEach (source : Option Json) (n : Nat) (ls : List Link) :
    (numberedEach source n ls).length = (preorderEach ls).length := by
  rw [← map_link_numberedEach source n ls, List.length_map]

/-- The alias of every link of a forest, given the number of links before it. -/
def aliases (n : Nat) (ls : List Link) : List Json :=
  (preorderEach ls).mapIdx fun i l ↦ l.effectiveAlias (n + i + 1)

theorem map_aliasName_numberedEach (source : Option Json) (n : Nat) (ls : List Link) :
    (numberedEach source n ls).map PlannedLink.aliasName = aliases n ls := by
  induction ls using forest_induction generalizing source n with
  | nil => rfl
  | cons l ls below beside =>
      simp only [numberedEach_cons, List.map_cons, List.map_append, below, beside, aliases,
        preorderEach_cons, List.mapIdx_cons, List.mapIdx_append]
      simp only [Nat.add_zero, Nat.add_assoc, Nat.add_comm, Nat.add_left_comm]

theorem aliases_cons (n : Nat) (l : Link) (ls : List Link) :
    aliases n (l :: ls) = l.effectiveAlias (n + 1) ::
      (aliases (n + 1) l.links ++ aliases (n + 1 + (preorderEach l.links).length) ls) := by
  rw [← map_aliasName_numberedEach none, numberedEach_cons, List.map_cons, List.map_append,
    map_aliasName_numberedEach, map_aliasName_numberedEach]

@[simp] theorem length_aliases (n : Nat) (ls : List Link) :
    (aliases n ls).length = (preorderEach ls).length := by
  simp [aliases]

/-! ## Checking aliases one after the other -/

/-- Plans further links as they are, unless an alias repeats an earlier one. -/
def enlist (done : List PlannedLink) : List PlannedLink → Except QueryFault (List PlannedLink)
  | [] => .ok done
  | p :: ps =>
    if done.any (·.aliasName.same p.aliasName) then .error (.duplicateAlias p.aliasName)
    else enlist (done ++ [p]) ps

theorem enlist_append (done ps qs : List PlannedLink) :
    enlist done (ps ++ qs) = enlist done ps >>= fun d ↦ enlist d qs := by
  induction ps generalizing done with
  | nil => rfl
  | cons p ps ih =>
      simp only [List.cons_append, enlist]
      split
      · rfl
      · exact ih _

theorem eq_append_of_enlist {done ps d : List PlannedLink} (h : enlist done ps = .ok d) :
    d = done ++ ps := by
  induction ps generalizing done with
  | nil => simpa [enlist, eq_comm] using h
  | cons p ps ih =>
      simp only [enlist] at h
      split at h
      · contradiction
      · simpa using ih h

theorem plan_eq (source : Option Json) (done : List PlannedLink) (l : Link) :
    plan source done l =
      if done.any (·.aliasName.same (l.effectiveAlias (done.length + 1))) then
        .error (.duplicateAlias (l.effectiveAlias (done.length + 1)))
      else
        planEach (some (l.effectiveAlias (done.length + 1)))
          (done ++ [⟨l, l.effectiveAlias (done.length + 1), source⟩]) l.links := by
  cases l
  rfl

theorem planEach_eq (source : Option Json) (done : List PlannedLink) (ls : List Link) :
    planEach source done ls = enlist done (numberedEach source done.length ls) := by
  induction ls using forest_induction generalizing source done with
  | nil => rfl
  | cons l ls below beside =>
      have hplan : plan source done l = enlist done
          (⟨l, l.effectiveAlias (done.length + 1), source⟩ ::
            numberedEach (some (l.effectiveAlias (done.length + 1))) (done.length + 1)
              l.links) := by
        simp only [plan_eq, enlist, below, List.length_append, List.length_singleton]
      rw [numberedEach_cons, ← List.cons_append, enlist_append, ← hplan, planEach]
      cases hd : plan source done l with
      | error e => rfl
      | ok d =>
          have hlen := congrArg List.length (eq_append_of_enlist (hplan ▸ hd))
          simp only [List.length_append, List.length_cons, length_numberedEach] at hlen
          simp only [bind, Except.bind, beside, hlen]
          congr 2
          omega

def AliasesDistinct (ps : List PlannedLink) : Prop :=
  ps.Pairwise fun p q ↦ p.aliasName.same q.aliasName = false

theorem enlist_eq_ok_iff {done ps d : List PlannedLink} :
    enlist done ps = .ok d ↔ d = done ++ ps ∧ AliasesDistinct ps ∧
      ∀ p ∈ done, ∀ q ∈ ps, p.aliasName.same q.aliasName = false := by
  unfold AliasesDistinct
  induction ps generalizing done with
  | nil => simpa [enlist] using eq_comm
  | cons q ps ih =>
      by_cases hany : done.any (·.aliasName.same q.aliasName) = true
      · obtain ⟨p, hp, hsame⟩ := List.any_eq_true.mp hany
        simp only [enlist, if_pos hany, reduceCtorEq, false_iff]
        rintro ⟨-, -, hdistinct⟩
        exact Bool.false_ne_true ((hdistinct p hp q List.mem_cons_self).symm.trans hsame)
      · have hnew : ∀ p ∈ done, p.aliasName.same q.aliasName = false := by simpa using hany
        simp only [enlist, if_neg hany, ih, List.pairwise_cons, List.mem_append, List.mem_cons,
          List.append_assoc, List.singleton_append]
        constructor
        · rintro ⟨rfl, hps, hdone⟩
          refine ⟨rfl, ⟨fun p hp ↦ hdone q (by simp) p hp, hps⟩, ?_⟩
          rintro p hp p' (rfl | hp')
          · exact hnew p hp
          · exact hdone p (.inl hp) p' hp'
        · rintro ⟨rfl, ⟨hq, hps⟩, hdone⟩
          refine ⟨rfl, hps, ?_⟩
          rintro p (hp | rfl | hp) p' hp'
          · exact hdone p hp p' (.inr hp')
          · exact hq p' hp'
          · simp at hp

/-- Planning stops at the first alias that repeats one before it. -/
theorem exists_of_enlist_eq_error {done ps : List PlannedLink} {fault : QueryFault}
    (h : enlist done ps = .error fault) :
    ∃ earlier p later, ps = earlier ++ p :: later ∧ enlist done earlier = .ok (done ++ earlier) ∧
      (∃ q ∈ done ++ earlier, q.aliasName.same p.aliasName = true) ∧
      fault = .duplicateAlias p.aliasName := by
  induction ps generalizing done with
  | nil => contradiction
  | cons p ps ih =>
      rw [enlist] at h
      split at h
      · rename_i hrepeats
        refine ⟨[], p, ps, rfl, by simp [enlist], ?_, (Except.error.inj h).symm⟩
        simpa using hrepeats
      · rename_i hnew
        obtain ⟨earlier, p', later, rfl, hearlier, hrepeats, hfault⟩ := ih h
        refine ⟨p :: earlier, p', later, rfl, ?_, by simpa using hrepeats, hfault⟩
        rw [enlist, if_neg hnew, hearlier, List.append_assoc, List.singleton_append]

end Link

namespace Query

/-- The plans of a query exist if no alias repeats, and number its links in depth-first order. -/
theorem planLinks_eq_ok_iff {q : Query} {plans : List PlannedLink} :
    q.planLinks = .ok plans ↔
      plans = Link.numberedEach none 0 q.links ∧ Link.AliasesDistinct plans := by
  unfold planLinks
  rw [Link.planEach_eq, Link.enlist_eq_ok_iff]
  simp only [List.nil_append, List.length_nil, List.not_mem_nil, false_imp_iff, implies_true,
    and_true]
  constructor
  · rintro ⟨rfl, h⟩
    exact ⟨rfl, h⟩
  · rintro ⟨rfl, h⟩
    exact ⟨rfl, h⟩

end Query

end OrgService
