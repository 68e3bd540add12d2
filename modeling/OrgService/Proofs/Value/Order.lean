import Mathlib.Data.String.Basic
import Mathlib.Data.Sum.Order
import OrgService.Proofs.Calendar.Ordinal
import OrgService.Proofs.Number.Exact
import OrgService.Query.Ordering

/-!
# The order of values

All values lie on one line, on which those of one ordering kind stand in their order: numbers by
what they denote, texts by their characters, identifiers, dates and timestamps by the number behind
them. A NaN has no place there.
-/

namespace OrgService

namespace Number

/-- Where a number lies on the line; a NaN, which lies nowhere, is put at the lower end. -/
def place (n : Number) : WithBotTop ℚ := n.exact.place?.getD ⊥

theorem place?_of_not_isNaN {n : Number} (hn : n.isNaN = false) :
    n.exact.place? = some n.place := by
  unfold place
  unfold isNaN at hn
  cases hexact : n.exact with
  | finite coefficient exponent => rfl
  | infinity negative => rfl
  | nan signaling => simp [hexact] at hn

end Number

namespace Comparable

/-- Numbers lie before texts, and these before all other values. -/
abbrev Line : Type := WithBotTop ℚ ⊕ₗ String ⊕ₗ ℤ

/-- Where a value lies on the line. -/
def place : Comparable → Line
  | .number n => toLex (.inl n.place)
  | .text s => toLex (.inr (toLex (.inl s)))
  | .guid g => toLex (.inr (toLex (.inr g.toNat)))
  | .date d => toLex (.inr (toLex (.inr d.ordinal)))
  | .timestamp t => toLex (.inr (toLex (.inr t.instant)))
  | .null | .absent => toLex (.inr (toLex (.inr 0)))

theorem compare_inl {α β : Type} [LinearOrder α] [LinearOrder β] (a b : α) :
    compare (toLex (.inl a) : α ⊕ₗ β) (toLex (.inl b)) = compare a b :=
  compare_map Sum.Lex.inl_strictMono a b

theorem compare_inr {α β : Type} [LinearOrder α] [LinearOrder β] (a b : β) :
    compare (toLex (.inr a) : α ⊕ₗ β) (toLex (.inr b)) = compare a b :=
  compare_map Sum.Lex.inr_strictMono a b

theorem compareNumbers_eq {m n : Number} (hm : m.isNaN = false) (hn : n.isNaN = false) :
    compareNumbers m n = .ok (some (compare m.place n.place)) := by
  have hfits : ((m.isNaN || n.isNaN) && (m.isDecimal || n.isDecimal)) = false := by
    rw [hm, hn, Bool.or_self, Bool.false_and]
  rw [compareNumbers, hfits, if_neg Bool.false_ne_true, Exact.compare?_eq,
    Number.place?_of_not_isNaN hm, Number.place?_of_not_isNaN hn]
  rfl

theorem isSignaling_of_not_isNaN {n : Number} (hn : n.isNaN = false) : n.isSignaling = false := by
  unfold Number.isNaN at hn
  unfold Number.isSignaling
  cases hexact : n.exact with
  | finite coefficient exponent => rfl
  | infinity negative => rfl
  | nan signaling => simp [hexact] at hn

theorem equalNumbers_eq {m n : Number} (hm : m.isNaN = false) (hn : n.isNaN = false) :
    equalNumbers m n = .ok (decide (m.place = n.place)) := by
  have hfits : (m.isSignaling || n.isSignaling) = false := by
    rw [isSignaling_of_not_isNaN hm, isSignaling_of_not_isNaN hn, Bool.or_self]
  rw [equalNumbers, hfits, if_neg Bool.false_ne_true, Exact.compare?_eq,
    Number.place?_of_not_isNaN hm, Number.place?_of_not_isNaN hn]
  exact congrArg Except.ok (Bool.eq_iff_iff.mpr (by simp))

theorem orderingKind_timestamp_inj {s t : Timestamp} :
    (timestamp s).orderingKind = (timestamp t).orderingKind ↔ s.isAware = t.isAware := by
  simp only [orderingKind]
  cases s.isAware <;> cases t.isAware <;> simp

/-- Two values of one kind have one constructor, and two timestamps are both aware or both not. -/
inductive SameKind : Comparable → Comparable → Prop
  | number (m n : Number) : SameKind (.number m) (.number n)
  | text (s t : String) : SameKind (.text s) (.text t)
  | guid (g h : Guid) : SameKind (.guid g) (.guid h)
  | date (d e : Date) : SameKind (.date d) (.date e)
  | timestamp {s t : Timestamp} (h : s.isAware = t.isAware) : SameKind (.timestamp s) (.timestamp t)
  | null : SameKind .null .null
  | absent : SameKind .absent .absent

variable {v w : Comparable}

theorem sameKind_of_eq (hkind : v.orderingKind = w.orderingKind) : SameKind v w := by
  cases v <;> cases w <;> try (simp only [orderingKind] at hkind; split at hkind <;> contradiction)
  all_goals try contradiction
  case number.number m n => exact .number m n
  case text.text s t => exact .text s t
  case guid.guid g h => exact .guid g h
  case date.date d e => exact .date d e
  case timestamp.timestamp s t => exact .timestamp (orderingKind_timestamp_inj.mp hkind)
  case null.null => exact .null
  case absent.absent => exact .absent

/-- Values of one kind are equal if they have one place, NaN apart. -/
theorem equal_eq (hkind : v.orderingKind = w.orderingKind) (hv : v.isNaN = false)
    (hw : w.isNaN = false) : v.equal w = .ok (decide (v.place = w.place)) := by
  cases sameKind_of_eq hkind with
  | number m n => simp [equal, equalNumbers_eq hv hw, place]
  | text s t => simp [equal, place, beq_eq_decide]
  | guid g h =>
      obtain ⟨m, _⟩ := g
      obtain ⟨n, _⟩ := h
      simp [equal, place, beq_eq_decide]
  | date d e => simp [equal, place, beq_eq_decide, Date.ordinal_injective.eq_iff]
  | timestamp haware => simp [equal, place, beq_eq_decide, haware]
  | null => rfl
  | absent => rfl

theorem equal_of_kind_ne (hkind : v.orderingKind ≠ w.orderingKind) : v.equal w = .ok false := by
  cases v <;> cases w <;> try rfl
  all_goals try contradiction
  case timestamp.timestamp s t =>
      have haware := mt orderingKind_timestamp_inj.mpr hkind
      simp [equal, haware]

/-- Values of one kind compare as their places do, NaN apart; nulls do not compare. -/
theorem compare?_eq (hkind : v.orderingKind = w.orderingKind) (hv : v.isNaN = false)
    (hw : w.isNaN = false) (hnull : v.orderingKind ≠ .null) (habsent : v.orderingKind ≠ .absent) :
    v.compare? w = some (.ok (some (compare v.place w.place))) := by
  cases sameKind_of_eq hkind with
  | number m n => simp [compare?, compareNumbers_eq hv hw, place, compare_inl]
  | text s t => simp [compare?, place, compare_inl, compare_inr]
  | guid g h => simp [compare?, place, compare_inr, compare_map Nat.strictMono_cast]
  | date d e => simp [compare?, place, compare_inr, compare_map Nat.strictMono_cast]
  | timestamp haware => simp [compare?, haware, place, compare_inr]
  | null => exact absurd rfl hnull
  | absent => exact absurd rfl habsent

theorem compare?_of_kind_ne (hkind : v.orderingKind ≠ w.orderingKind) : v.compare? w = none := by
  cases v <;> cases w <;> try rfl
  all_goals try contradiction
  case timestamp.timestamp s t =>
      have haware := mt orderingKind_timestamp_inj.mpr hkind
      simp [compare?, haware]

theorem eq_of_no_kind (hkind : v.orderingKind = w.orderingKind)
    (h : v.orderingKind = .null ∨ v.orderingKind = .absent) :
    (v = .null ∧ w = .null) ∨ (v = .absent ∧ w = .absent) := by
  cases sameKind_of_eq hkind with
  | null => exact .inl ⟨rfl, rfl⟩
  | absent => exact .inr ⟨rfl, rfl⟩
  | timestamp =>
      simp only [orderingKind] at h
      split at h <;> simp at h
  | _ => simp [orderingKind] at h

/-- Values of one kind stand in the order of their places, NaN apart. -/
theorem order_eq (hkind : v.orderingKind = w.orderingKind) (hv : v.isNaN = false)
    (hw : w.isNaN = false) : v.order w = compare v.place w.place := by
  by_cases hnone : v.orderingKind = .null ∨ v.orderingKind = .absent
  · rcases eq_of_no_kind hkind hnone with ⟨rfl, rfl⟩ | ⟨rfl, rfl⟩ <;> simp [order, compare?]
  · obtain ⟨hnull, habsent⟩ := not_or.mp hnone
    rw [order, compare?_eq hkind hv hw hnull habsent]

end Comparable

end OrgService
