import Mathlib.Data.Nat.Digits.Defs
import OrgService.Proofs.Query.Numbering
import OrgService.Query.Builder

/-!
# Generated aliases

A link without an alias is called by its target with its position behind it. Nothing stands between
the two, so a target that ends in digits can make up for digits that a position lacks. Two links
that have no alias are called alike only in this way.
-/

namespace OrgService

/-! ## Names with a number behind -/

theorem toDigits_ten_injective {i j : ℕ} (h : Nat.toDigits 10 i = Nat.toDigits 10 j) : i = j := by
  have hvalues := congrArg (fun ds ↦ Nat.ofDigitChars 10 ds 0) h
  simpa using hvalues

theorem length_toDigits_le {i j : ℕ} (h : i ≤ j) :
    (Nat.toDigits 10 i).length ≤ (Nat.toDigits 10 j).length := by
  have hj : j < 10 ^ (Nat.toDigits 10 j).length :=
    (Nat.length_toDigits_le_iff (by decide) Nat.length_toDigits_pos).mp le_rfl
  exact (Nat.length_toDigits_le_iff (by decide) Nat.length_toDigits_pos).mpr (h.trans_lt hj)

/-- With different numbers behind them, two names are the same if the shorter number lacks digits
which its name has at its end instead. -/
theorem append_toString_eq_iff {s t : String} {i j : ℕ} (h : i < j) :
    s ++ toString i = t ++ toString j ↔
      ∃ digits, digits ++ toString i = toString j ∧ s = t ++ digits := by
  constructor
  · intro heq
    have hlists : s.toList ++ Nat.toDigits 10 i = t.toList ++ Nat.toDigits 10 j := by
      simpa using congrArg String.toList heq
    obtain ⟨digits, ht, hi⟩ | ⟨digits, hs, hj⟩ := List.append_eq_append_iff.mp hlists
    · -- The digits of the lesser number are no more than those of the greater one.
      have hlength := length_toDigits_le h.le
      rw [hi, List.length_append] at hlength
      obtain rfl : digits = [] := List.eq_nil_of_length_eq_zero (by omega)
      exact absurd (toDigits_ten_injective hi) h.ne
    · refine ⟨String.ofList digits, ?_, ?_⟩
      · exact String.toList_injective (by simp [hj])
      · exact String.toList_injective (by simp [hs])
  · rintro ⟨digits, hj, rfl⟩
    rw [← hj, String.append_assoc]

theorem ne_empty_of_append_toString {digits : String} {i j : ℕ} (h : i < j)
    (heq : digits ++ toString i = toString j) : digits ≠ "" := by
  rintro rfl
  have hlists : Nat.toDigits 10 i = Nat.toDigits 10 j := by simpa using congrArg String.toList heq
  exact h.ne (toDigits_ten_injective hlists)

/-- The digits that a number has in front of another number are digits. -/
theorem isDigit_of_append_toString {digits : String} {i j : ℕ}
    (heq : digits ++ toString i = toString j) : ∀ c ∈ digits.toList, c.isDigit = true := by
  intro c hc
  have hmem : c ∈ (toString j).toList := by
    rw [← heq, String.toList_append]
    exact List.mem_append_left _ hc
  rw [Nat.toString_eq_repr, Nat.toList_repr] at hmem
  exact Nat.isDigit_of_mem_toDigits (by decide) (by decide) hmem

/-- An element that stands in a list a second time, and is the first to do so. -/
theorem exists_repeat_of_append {α : Type} {xs earlier later : List α} {a : α}
    (hsplit : xs = earlier ++ a :: later) (hnodup : earlier.Nodup) (ha : a ∈ earlier) :
    ∃ i j : ℕ, i < j ∧ xs[i]? = some a ∧ xs[j]? = some a ∧
      ∀ i' j' : ℕ, i' < j' → j' < j → xs[i']? ≠ xs[j']? := by
  have hearlier : ∀ k < earlier.length, xs[k]? = earlier[k]? := by
    intro k hk
    rw [hsplit, List.getElem?_append_left hk]
  obtain ⟨i, hi⟩ := List.getElem?_of_mem ha
  obtain ⟨hlt, -⟩ := List.getElem?_eq_some_iff.mp hi
  refine ⟨i, earlier.length, hlt, (hearlier i hlt).trans hi, ?_, fun i' j' hij hj ↦ ?_⟩
  · rw [hsplit, List.getElem?_append_right le_rfl, Nat.sub_self, List.getElem?_cons_zero]
  · rw [hearlier i' (hij.trans hj), hearlier j' hj]
    exact List.nodup_iff_getElem?_ne_getElem?.mp hnodup i' j' hij hj

namespace Link

/-- A link has no alias of its own; the empty text is none. -/
def IsUnnamed (l : Link) : Prop := l.aliasName.isGiven = false

/-- What a link without an alias is called at a position, counted from one. -/
def generatedAlias (l : Link) (position : ℕ) : String := l.toEntity.plain ++ toString position

/-- The position of a later link has some digits in front of those of the position of an earlier
one, and the target of the earlier link is that of the later one with these digits behind. -/
def Collide (ls : List Link) (i j : ℕ) : Prop :=
  ∃ l l' digits, (preorderEach ls)[i]? = some l ∧ (preorderEach ls)[j]? = some l' ∧
    digits ++ toString (i + 1) = toString (j + 1) ∧ l.toEntity.plain = l'.toEntity.plain ++ digits

variable {ls : List Link} {i j : ℕ}

theorem IsUnnamed.effectiveAlias_eq {l : Link} (h : l.IsUnnamed) (n : ℕ) :
    l.effectiveAlias n = .str (l.generatedAlias n) := by
  rw [effectiveAlias, h, if_neg Bool.false_ne_true, generatedAlias]

theorem aliases_of_unnamed (h : ∀ l ∈ preorderEach ls, l.IsUnnamed) :
    aliases 0 ls = (preorderEach ls).mapIdx fun i l ↦ .str (l.generatedAlias (i + 1)) := by
  apply List.ext_getElem?
  intro i
  rw [aliases, List.getElem?_mapIdx, List.getElem?_mapIdx]
  cases hl : (preorderEach ls)[i]? with
  | none => rfl
  | some l =>
      rw [Option.map_some, Option.map_some, Nat.zero_add,
        (h l (List.mem_of_getElem? hl)).effectiveAlias_eq]

theorem isText_of_unnamed (h : ∀ l ∈ preorderEach ls, l.IsUnnamed) {source : Option Json}
    {p : PlannedLink} (hp : p ∈ numberedEach source 0 ls) : p.aliasName.IsText := by
  have hmem : p.aliasName ∈ aliases 0 ls := by
    rw [← map_aliasName_numberedEach source]
    exact List.mem_map_of_mem hp
  rw [aliases_of_unnamed h] at hmem
  obtain ⟨i, hi, heq⟩ := List.mem_mapIdx.mp hmem
  exact ⟨_, heq.symm⟩

theorem collide_iff (h : ∀ l ∈ preorderEach ls, l.IsUnnamed) (hij : i < j) :
    Collide ls i j ↔ ∃ a, (aliases 0 ls)[i]? = some a ∧ (aliases 0 ls)[j]? = some a := by
  simp only [aliases_of_unnamed h, List.getElem?_mapIdx, Option.map_eq_some_iff]
  constructor
  · rintro ⟨l, l', digits, hl, hl', hpositions, htargets⟩
    have halias := (append_toString_eq_iff (Nat.succ_lt_succ hij)).mpr
      ⟨digits, hpositions, htargets⟩
    exact ⟨_, ⟨l, hl, rfl⟩, l', hl', congrArg Json.str halias.symm⟩
  · rintro ⟨_, ⟨l, hl, rfl⟩, l', hl', halias⟩
    obtain ⟨digits, hpositions, htargets⟩ :=
      (append_toString_eq_iff (Nat.succ_lt_succ hij)).mp (Json.str.inj halias).symm
    exact ⟨l, l', digits, hl, hl', hpositions, htargets⟩

theorem nodup_aliases_iff (h : ∀ l ∈ preorderEach ls, l.IsUnnamed) :
    (aliases 0 ls).Nodup ↔ ∀ i j, i < j → ¬Collide ls i j := by
  rw [List.nodup_iff_getElem?_ne_getElem?]
  constructor
  · intro hdiffer i j hij hcollide
    obtain ⟨a, hi, hj⟩ := (collide_iff h hij).mp hcollide
    obtain ⟨hlength, -⟩ := List.getElem?_eq_some_iff.mp hj
    exact hdiffer i j hij hlength (hi.trans hj.symm)
  · intro hnone i j hij hlength heq
    have hj := List.getElem?_eq_getElem hlength
    exact hnone i j hij ((collide_iff h hij).mpr ⟨_, heq.trans hj, hj⟩)

/-! ## Forests without collisions -/

theorem Collide.lt_length (h : Collide ls i j) : j < (preorderEach ls).length := by
  obtain ⟨l, l', digits, -, hl', -⟩ := h
  exact (List.getElem?_eq_some_iff.mp hl').1

/-- The first position with digits in front of those of another one is the eleventh. -/
theorem Collide.ten_le (h : Collide ls i j) (hij : i < j) : 10 ≤ j := by
  obtain ⟨l, l', digits, -, -, hpositions, -⟩ := h
  by_contra hj
  have hsuffix : (toString (i + 1)).toList <:+ (toString (j + 1)).toList := by
    rw [← hpositions, String.toList_append]
    exact List.suffix_append _ _
  have hnone : ∀ j < 10, ∀ i < j, ¬(toString (i + 1)).toList <:+ (toString (j + 1)).toList := by
    decide
  exact hnone j (Nat.lt_of_not_le hj) i hij hsuffix

theorem Collide.exists_digit (h : Collide ls i j) (hij : i < j) :
    ∃ l ∈ preorderEach ls, ∃ c, l.toEntity.plain.toList.getLast? = some c ∧ c.isDigit = true := by
  obtain ⟨l, l', digits, hl, -, hpositions, htargets⟩ := h
  have hne : digits.toList ≠ [] := by
    have hdigits := ne_empty_of_append_toString (Nat.succ_lt_succ hij) hpositions
    simpa using hdigits
  refine ⟨l, List.mem_of_getElem? hl, digits.toList.getLast hne, ?_, ?_⟩
  · rw [htargets, String.toList_append, List.getLast?_append_of_ne_nil _ hne,
      List.getLast?_eq_some_getLast hne]
  · exact isDigit_of_append_toString hpositions _ (List.getLast_mem hne)

end Link

namespace Query

open Link (Collide)

variable {q : Query}

theorem planLinks_eq_ok_of_not_collide (h : ∀ l ∈ Link.preorderEach q.links, l.IsUnnamed)
    (hnone : ∀ i j, i < j → ¬Collide q.links i j) :
    q.planLinks = .ok (Link.numberedEach none 0 q.links) := by
  refine planLinks_eq_ok_iff.mpr ⟨rfl, ?_⟩
  rw [Link.aliasesDistinct_iff fun _ ↦ Link.isText_of_unnamed h, Link.map_aliasName_numberedEach]
  exact (Link.nodup_aliases_iff h).mpr hnone

/-- Where planning complains, it does so of the first link that collides with one before it. -/
theorem exists_first_collision (h : ∀ l ∈ Link.preorderEach q.links, l.IsUnnamed)
    {fault : QueryFault} (hfault : q.planLinks = .error fault) :
    ∃ i j l, i < j ∧ Collide q.links i j ∧ (∀ i' j', i' < j' → j' < j → ¬Collide q.links i' j') ∧
      (Link.preorderEach q.links)[j]? = some l ∧
      fault = .duplicateAlias (.str (l.generatedAlias (j + 1))) := by
  have hplan : q.planLinks = Link.enlist [] (Link.numberedEach none 0 q.links) :=
    Link.planEach_eq none [] q.links
  have htexts : ∀ p ∈ Link.numberedEach none 0 q.links, p.aliasName.IsText :=
    fun _ ↦ Link.isText_of_unnamed h
  have hrepeats : ¬((Link.numberedEach none 0 q.links).map PlannedLink.aliasName).Nodup := by
    intro hnodup
    rw [hplan, (Link.enlist_eq_ok_iff_nodup htexts).mpr hnodup] at hfault
    contradiction
  obtain ⟨earlier, p, later, hsplit, hnodup, ⟨p', hp', hcalled⟩, herror⟩ :=
    Link.exists_first_repeat htexts hrepeats
  have haliases : Link.aliases 0 q.links =
      earlier.map PlannedLink.aliasName ++ p.aliasName :: later.map PlannedLink.aliasName := by
    rw [← Link.map_aliasName_numberedEach none, hsplit, List.map_append, List.map_cons]
  obtain ⟨i, j, hij, hi, hj, hdiffer⟩ :=
    exists_repeat_of_append haliases hnodup (List.mem_map.mpr ⟨p', hp', hcalled⟩)
  have hcollide := (Link.collide_iff h hij).mpr ⟨_, hi, hj⟩
  obtain ⟨-, l, -, -, hl, -⟩ := id hcollide
  refine ⟨i, j, l, hij, hcollide, fun i' j' hij' hj' hbefore ↦ ?_, hl, ?_⟩
  · obtain ⟨a, ha, ha'⟩ := (Link.collide_iff h hij').mp hbefore
    exact hdiffer i' j' hij' hj' (ha.trans ha'.symm)
  · rw [Link.aliases_of_unnamed h, List.getElem?_mapIdx, hl, Option.map_some] at hj
    rw [Option.some.inj hj]
    exact Except.error.inj (hfault.symm.trans (hplan.trans herror))

/-- Where no link has an alias, every link gets its generated one unless two links collide; the
first one to collide with one before it is the one complained of. Ten links or fewer never collide,
nor do links whose targets do not end in digits. -/
theorem planLinks_of_unnamed (h : ∀ l ∈ Link.preorderEach q.links, l.IsUnnamed) :
    ((∃ plans, q.planLinks = .ok plans ∧ (plans.map PlannedLink.aliasName).Nodup ∧
        plans.map PlannedLink.aliasName =
          (Link.preorderEach q.links).mapIdx fun i l ↦ .str (l.generatedAlias (i + 1))) ↔
      ∀ i j, i < j → ¬Collide q.links i j) ∧
    (∀ fault, q.planLinks = .error fault → ∃ i j l, i < j ∧ Collide q.links i j ∧
      (∀ i' j', i' < j' → j' < j → ¬Collide q.links i' j') ∧
      (Link.preorderEach q.links)[j]? = some l ∧
      fault = .duplicateAlias (.str (l.generatedAlias (j + 1)))) ∧
    ((Link.preorderEach q.links).length ≤ 10 → ∃ plans, q.planLinks = .ok plans) ∧
    ((∀ l ∈ Link.preorderEach q.links, ∀ c, l.toEntity.plain.toList.getLast? = some c →
        c.isDigit = false) → ∃ plans, q.planLinks = .ok plans) := by
  refine ⟨⟨?_, fun hnone ↦ ?_⟩, fun _ ↦ exists_first_collision h, fun hfew ↦ ?_, fun hends ↦ ?_⟩
  · rintro ⟨plans, hplans, hnodup, -⟩
    obtain ⟨rfl, -⟩ := planLinks_eq_ok_iff.mp hplans
    rw [Link.map_aliasName_numberedEach] at hnodup
    exact (Link.nodup_aliases_iff h).mp hnodup
  · refine ⟨_, planLinks_eq_ok_of_not_collide h hnone, ?_, ?_⟩
    · rw [Link.map_aliasName_numberedEach]
      exact (Link.nodup_aliases_iff h).mpr hnone
    · rw [Link.map_aliasName_numberedEach, Link.aliases_of_unnamed h]
  · refine ⟨_, planLinks_eq_ok_of_not_collide h fun i j hij hcollide ↦ ?_⟩
    have hlate := hcollide.ten_le hij
    have hlength := hcollide.lt_length
    omega
  · refine ⟨_, planLinks_eq_ok_of_not_collide h fun i j hij hcollide ↦ ?_⟩
    obtain ⟨l, hl, c, hlast, hdigit⟩ := hcollide.exists_digit hij
    rw [hends l hl c hlast] at hdigit
    contradiction

/-- Ten links without aliases, and an eleventh that is called like the first. -/
def elevenLinks : Query :=
  let link (target : String) : Link :=
    .simple (.str "x") (.str target) (.str "k") (.str "k") .inner
  { Query.base (.str "x") with links := link "a1" :: List.replicate 9 (link "b") ++ [link "a"] }

theorem planLinks_of_unnamed_example :
    let tenLinks : Query := { elevenLinks with links := elevenLinks.links.take 10 }
    (∀ l ∈ Link.preorderEach tenLinks.links, l.IsUnnamed) ∧
      (∃ plans, tenLinks.planLinks = .ok plans) ∧
      (∀ l ∈ Link.preorderEach elevenLinks.links, l.IsUnnamed) ∧
      ∃ i j, i < j ∧ Collide elevenLinks.links i j := by
  intro tenLinks
  have hten : ∀ l ∈ Link.preorderEach tenLinks.links, l.IsUnnamed := by
    simp [tenLinks, elevenLinks, Query.base, Link.simple, List.replicate, Link.IsUnnamed,
      Json.isGiven]
  have heleven : ∀ l ∈ Link.preorderEach elevenLinks.links, l.IsUnnamed := by
    simp [elevenLinks, Query.base, Link.simple, List.replicate, Link.IsUnnamed, Json.isGiven]
  have hfails : elevenLinks.planLinks = .error (.duplicateAlias (.str "a11")) := by rfl
  obtain ⟨i, j, -, hij, hcollide, -⟩ := (planLinks_of_unnamed heleven).2.1 _ hfails
  exact ⟨hten, (planLinks_of_unnamed hten).2.2.1 (by rfl), heleven, i, j, hij, hcollide⟩

/-- The target of the first link ends in the digit that its position lacks. -/
theorem not_planLinks_elevenLinks :
    (∀ l ∈ Link.preorderEach elevenLinks.links, l.aliasName = .null) ∧
      ∀ plans, elevenLinks.planLinks ≠ .ok plans := by
  have hfails : elevenLinks.planLinks = .error (.duplicateAlias (.str "a11")) := by rfl
  refine ⟨?_, fun plans hplans ↦ ?_⟩
  · simp [elevenLinks, Query.base, Link.simple, List.replicate]
  · rw [hfails] at hplans
    contradiction

end Query

end OrgService
