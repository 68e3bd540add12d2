import OrgService.Proofs.Query.Alias
import OrgService.Proofs.Query.Clash
import OrgService.Proofs.Query.Operators
import OrgService.Proofs.Value.Aliases

/-!
# Joins and equality

Two values have equal join keys if one of them equals the other, as a condition has it, with either
of them for the value of the record. What a join adds are two texts that spell one identifier in
different ways: each is an identifier for a join, but a condition compares them as texts.
-/

namespace OrgService

namespace Comparable

open Condition (coerce)

variable {c d : Comparable}

theorem equalNumbers_comm (m n : Number) : equalNumbers m n = equalNumbers n m := by
  have hsame : (m.exact.compare? n.exact == some .eq) = (n.exact.compare? m.exact == some .eq) := by
    rw [Bool.eq_iff_iff, beq_iff_eq, beq_iff_eq, Exact.compare?_eq_some_eq_comm]
  rw [equalNumbers, equalNumbers, Bool.or_comm, hsame]

theorem equal_comm (c d : Comparable) : c.equal d = d.equal c := by
  have hbeq : (c == d) = (d == c) := BEq.comm
  cases c with
  | number m =>
      cases d with
      | number n => exact equalNumbers_comm m n
      | _ => exact congrArg Except.ok hbeq
  | timestamp t =>
      cases d with
      | timestamp u => simp only [equal, BEq.comm (a := t.isAware), BEq.comm (a := t.instant)]
      | _ => exact congrArg Except.ok hbeq
  | _ => cases d <;> exact congrArg Except.ok hbeq

theorem equal_text_eq_false (hc : ∀ s, c ≠ .text s) (s : String) :
    c.equal (.text s) = .ok false := by
  cases c with
  | text t => exact absurd rfl (hc t)
  | _ => rfl

theorem exists_equal_eq_ok (h : ¬EqualityClash c d) : ∃ b, c.equal d = .ok b := by
  cases hequal : c.equal d with
  | error cause => exact absurd (equal_eq_error_iff.mp hequal).2 h
  | ok b => exact ⟨b, rfl⟩

/-! ## Keys -/

theorem asKey_of_ne_text (hc : ∀ s, c ≠ .text s) : c.asKey = c := by
  cases c with
  | text s => exact absurd rfl (hc s)
  | _ => rfl

theorem asKey_eq_number_iff {n : Number} : c.asKey = .number n ↔ c = .number n := by
  cases c with
  | text s => cases hs : Guid.parse? s <;> simp [asKey, hs]
  | _ => rfl

/-- Only numbers clash, and they are keys as they are. -/
theorem EqualityClash.of_asKey (h : EqualityClash c.asKey d.asKey) : EqualityClash c d := by
  generalize hc : c.asKey = k, hd : d.asKey = l at h
  obtain ⟨hsignaling⟩ := h
  rw [asKey_eq_number_iff.mp hc, asKey_eq_number_iff.mp hd]
  exact .intro hsignaling

theorem EqualityClash.of_coerce (h : EqualityClash c (coerce c d)) : EqualityClash c d := by
  cases c with
  | number n => exact h
  | _ => contradiction

theorem EqualityClash.symm (h : EqualityClash c d) : EqualityClash d c := by
  obtain ⟨hsignaling⟩ := h
  exact .intro hsignaling.symm

theorem coerce_of_ne_text (hd : ∀ s, d ≠ .text s) : coerce c d = d := by
  cases d with
  | text s => exact absurd rfl (hd s)
  | _ => cases c <;> rfl

/-- Both are texts, and they spell the same identifier. -/
def SpellSame (c d : Comparable) : Prop :=
  ∃ s t g, c = .text s ∧ d = .text t ∧ Guid.parse? s = some g ∧ Guid.parse? t = some g

theorem equal_asKey_texts {s t : String} :
    (text s).asKey.equal (text t).asKey = .ok true ↔ s = t ∨ (text s).SpellSame (.text t) := by
  have hspell : (text s).SpellSame (.text t) ↔
      ∃ g, Guid.parse? s = some g ∧ Guid.parse? t = some g := by
    simp [SpellSame]
  rw [hspell]
  by_cases hst : s = t
  · subst hst
    cases hs : Guid.parse? s <;> simp [asKey, hs, equal]
  · cases hs : Guid.parse? s <;> cases ht : Guid.parse? t <;> simp [asKey, hs, ht, equal, hst]
    exact eq_comm

/-- What is no text compares with a key as it does with the value that the key was made of. -/
theorem equal_asKey (hc : ∀ s, c ≠ .text s) (d : Comparable) :
    c.equal d.asKey = c.equal (coerce c d) := by
  cases d with
  | text t =>
      cases c with
      | text s => exact absurd rfl (hc s)
      | guid g => rfl
      | _ => cases ht : Guid.parse? t <;> simp [asKey, ht, equal, coerce]
  | _ => rw [asKey_of_ne_text (by simp), coerce_of_ne_text (by simp)]

theorem equal_asKey_iff_of_ne_text (hc : ∀ s, c ≠ .text s) (d : Comparable) :
    c.asKey.equal d.asKey = .ok true ↔
      c.equal (coerce c d) = .ok true ∨ d.equal (coerce d c) = .ok true := by
  rw [asKey_of_ne_text hc, coerce_of_ne_text hc, equal_asKey hc, equal_comm d c]
  constructor
  · exact .inl
  · rintro (hequal | hequal)
    · exact hequal
    · -- The other value is a text, which equals nothing else as it is, or it needs no coercion.
      by_cases hd : ∃ t, d = .text t
      · obtain ⟨t, rfl⟩ := hd
        rw [equal_text_eq_false hc] at hequal
        contradiction
      · rwa [coerce_of_ne_text (not_exists.mp hd)]

/-- Keys are equal if either value equals the other, or if they are texts that are the same only as
identifiers. -/
theorem equal_asKey_iff (c d : Comparable) :
    c.asKey.equal d.asKey = .ok true ↔
      c.equal (coerce c d) = .ok true ∨ d.equal (coerce d c) = .ok true ∨ c.SpellSame d := by
  by_cases hc : ∃ s, c = .text s
  · by_cases hd : ∃ t, d = .text t
    · obtain ⟨s, rfl⟩ := hc
      obtain ⟨t, rfl⟩ := hd
      rw [equal_asKey_texts]
      simp [coerce, equal, eq_comm (a := t)]
    · have hd := not_exists.mp hd
      have hspell : ¬c.SpellSame d := by
        rintro ⟨s, t, g, -, rfl, -⟩
        exact hd t rfl
      rw [equal_comm, equal_asKey_iff_of_ne_text hd]
      simp only [hspell, or_false]
      exact or_comm
  · have hc := not_exists.mp hc
    have hspell : ¬c.SpellSame d := by
      rintro ⟨s, t, g, rfl, -⟩
      exact hc s rfl
    rw [equal_asKey_iff_of_ne_text hc]
    simp only [hspell, or_false]

end Comparable

/-! ## Values of attributes -/

namespace Value

open Comparable (EqualityClash)
open Condition (coerce test test_of_isConcrete)

/-- Both are texts, behind aliases or not, and with their case folded they spell the same
identifier. -/
def SpellSame (x v : Value) : Prop :=
  ∃ s t g, x.bare = .text s ∧ v.bare = .text t ∧
    Guid.parse? (Text.caseFold s) = some g ∧ Guid.parse? (Text.caseFold t) = some g

variable {x v : Value} {r s : Record} {name name' : String}

theorem comparable_eq_text_iff {t : String} :
    v.comparable = .text t ↔ ∃ s, v.bare = .text s ∧ Text.caseFold s = t := by
  induction v with
  | aliased _ _ v ih => exact ih
  | _ => simp [comparable, bare]

theorem spellSame_comparable : x.comparable.SpellSame v.comparable ↔ x.SpellSame v := by
  simp only [Comparable.SpellSame, SpellSame, comparable_eq_text_iff]
  constructor
  · rintro ⟨_, _, g, ⟨s, hx, rfl⟩, ⟨t, hv, rfl⟩, hs, ht⟩
    exact ⟨s, t, g, hx, hv, hs, ht⟩
  · rintro ⟨s, t, g, hx, hv, hs, ht⟩
    exact ⟨_, _, g, ⟨s, hx, rfl⟩, ⟨t, hv, rfl⟩, hs, ht⟩

/-- A record with a value is tested for equality with another one. -/
theorem test_equal_of_lookup (hr : r.lookup name = x) (hx : x.bare.isConcrete = true)
    (hclash : ¬EqualityClash x.comparable v.comparable) :
    ∃ b, test r name .equal [v] = .ok b ∧
      x.comparable.equal (coerce x.comparable v.comparable) = .ok b := by
  subst hr
  obtain ⟨b, hb⟩ := Comparable.exists_equal_eq_ok (mt EqualityClash.of_coerce hclash)
  refine ⟨b, ?_, hb⟩
  rw [test_of_isConcrete (isConcrete_of_bare hx)]
  exact congrArg (Except.mapError Fault.breakdown) hb

/-- Two values that are not null have equal join keys if and only if a record with one of them
passes the test for equality with the other, or they are texts that spell one identifier. Only a
signaling NaN among two numbers keeps this from being found out. -/
theorem joinKey_equal_iff (hx : x.bare.isConcrete = true) (hv : v.bare.isConcrete = true)
    (hclash : ¬EqualityClash x.comparable v.comparable)
    (hr : r.lookup name = x) (hs : s.lookup name' = v) :
    ∃ k l joined left right, x.joinKey = some k ∧ v.joinKey = some l ∧ k.equal l = .ok joined ∧
      test r name .equal [v] = .ok left ∧ test s name' .equal [x] = .ok right ∧
      (joined = true ↔ left = true ∨ right = true ∨ x.SpellSame v) := by
  obtain ⟨left, hleft, hxv⟩ := test_equal_of_lookup hr hx hclash
  obtain ⟨right, hright, hvx⟩ := test_equal_of_lookup hs hv (mt EqualityClash.symm hclash)
  obtain ⟨joined, hjoined⟩ := Comparable.exists_equal_eq_ok (mt EqualityClash.of_asKey hclash)
  refine ⟨_, _, joined, left, right, joinKey_of_bare hx, joinKey_of_bare hv, hjoined, hleft,
    hright, ?_⟩
  have hiff := Comparable.equal_asKey_iff x.comparable v.comparable
  rw [hjoined, hxv, hvx, spellSame_comparable] at hiff
  simpa only [Except.ok.injEq] using hiff

/-- Two texts that spell one identifier, with hyphens and without, the first behind an alias. -/
theorem joinKey_equal_iff_example :
    let hyphened : Value := .aliased "task" "owner" (.text "00000000-0000-0000-0000-00000000000A")
    let plain : Value := .text "0000000000000000000000000000000a"
    let task : Record := ⟨"task", none, .ofList [("owner", hyphened)]⟩
    let note : Record := ⟨"note", none, .ofList [("author", plain)]⟩
    test task "owner" .equal [plain] = .ok false ∧
      test note "author" .equal [hyphened] = .ok false ∧ hyphened.SpellSame plain ∧
      ∃ k l, hyphened.joinKey = some k ∧ plain.joinKey = some l ∧ k.equal l = .ok true := by
  intro hyphened plain task note
  have howner : task.lookup "owner" = hyphened := rfl
  have hauthor : note.lookup "author" = plain := rfl
  have hclash : ¬EqualityClash hyphened.comparable plain.comparable := by rintro ⟨⟩
  have hspell : hyphened.SpellSame plain :=
    ⟨_, _, ⟨10, by decide⟩, rfl, rfl, by decide +kernel, by decide +kernel⟩
  obtain ⟨k, l, joined, left, right, hk, hl, hjoined, -, -, hiff⟩ :=
    joinKey_equal_iff (x := hyphened) (v := plain) rfl rfl hclash howner hauthor
  obtain rfl : joined = true := hiff.mpr (.inr (.inr hspell))
  exact ⟨by decide +kernel, by decide +kernel, hspell, k, l, hk, hl, hjoined⟩

end Value

end OrgService
