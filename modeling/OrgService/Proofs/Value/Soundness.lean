import OrgService.Proofs.Number.Denotation
import OrgService.Proofs.Query.Expansion
import OrgService.Proofs.Query.Incomparable
import OrgService.Proofs.Query.Operators
import OrgService.Proofs.Value.Aliases

/-!
# Equality and order of values

Away from nulls and NaN, joins and conditions rest on two equivalence relations: that of having
equal join keys, and that of being equal. Within one kind any two values that are not equal stand
in an order, and tests and sorts find the same one. Numbers of all kinds, wrapped or not, are equal
and ordered as the numbers that they denote.
-/

namespace OrgService

/-- A strict order in which any two elements are ordered unless they are the same; it does not
tell apart those that are. -/
structure IsStrictOrderUpTo {α : Type} (same less : α → α → Prop) : Prop where
  trans : ∀ a b c, less a b → less b c → less a c
  trichotomy : ∀ a b, (less a b ∧ ¬same a b ∧ ¬less b a) ∨ (¬less a b ∧ same a b ∧ ¬less b a) ∨
    (¬less a b ∧ ¬same a b ∧ less b a)
  congr : ∀ a a' b b', same a a' → same b b' → (less a b ↔ less a' b')

/-- The order of places, up to what is in one place. -/
theorem isStrictOrderUpTo_of_place {α β : Type} [LinearOrder β] {same less : α → α → Prop}
    (place : α → β) (hsame : ∀ a b, same a b ↔ place a = place b)
    (hless : ∀ a b, less a b ↔ place a < place b) : IsStrictOrderUpTo same less where
  trans a b c := by
    simp only [hless]
    exact lt_trans
  trichotomy a b := by
    simp only [hless, hsame]
    rcases lt_trichotomy (place a) (place b) with hlt | heq | hgt
    · exact .inl ⟨hlt, hlt.ne, hlt.asymm⟩
    · exact .inr (.inl ⟨heq.not_lt, heq, heq.symm.not_lt⟩)
    · exact .inr (.inr ⟨hgt.asymm, hgt.ne', hgt⟩)
  congr a a' b b' := by
    simp only [hless, hsame]
    intro ha hb
    rw [ha, hb]

namespace Comparable

variable {c d : Comparable}

theorem equivalence_matches : Equivalence Matches where
  refl _ := ⟨rfl, rfl⟩
  symm := matches_comm.mp
  trans hcd hde := ⟨hcd.1.trans hde.1, hcd.2.trans hde.2⟩

theorem equal_eq_true_iff (hc : c.isNaN = false) (hd : d.isNaN = false) :
    c.equal d = .ok true ↔ c.Matches d := by
  rw [equal_eq_matches hc hd]
  simp

theorem isNaN_asKey (c : Comparable) : c.asKey.isNaN = c.isNaN := by
  cases c with
  | text s => cases hs : Guid.parse? s <;> simp [asKey, hs, isNaN]
  | _ => rfl

theorem exists_eq_number (hkind : c.orderingKind = .number) : ∃ n, c = .number n := by
  cases sameKind_of_eq (w := .number (.integer 0)) hkind with
  | number n => exact ⟨n, rfl⟩

theorem coerce_of_kind_eq (hkind : c.orderingKind = d.orderingKind) :
    Condition.coerce c d = d := by
  unfold Condition.coerce
  split
  · contradiction
  · rfl

end Comparable

theorem Number.denoted_eq_some_iff {n : Number} {p : WithBotTop ℚ} :
    n.denoted = some p ↔ n.isNaN = false ∧ n.place = p := by
  rw [← place?_exact]
  unfold isNaN place
  cases n.exact <;> simp [Exact.place?]

namespace Value

open Comparable

/-- Neither null, behind aliases or not, nor a NaN. -/
structure IsOrdinary (v : Value) : Prop where
  concrete : v.bare.isConcrete = true
  notNaN : v.comparable.isNaN = false

abbrev NotNaN : Type := {v : Value // v.comparable.isNaN = false}

abbrev Ordinary : Type := {v : Value // v.IsOrdinary}

abbrev OfKind (kind : OrderingKind) : Type :=
  {v : Value // v.IsOrdinary ∧ v.comparable.orderingKind = kind}

/-- Both values have join keys, and these are equal. -/
def JoinsWith (v w : Value) : Prop :=
  ∃ k l, v.joinKey = some k ∧ w.joinKey = some l ∧ k.equal l = .ok true

/-- What the values compare by is equal. -/
def Equals (v w : Value) : Prop := v.comparable.equal w.comparable = .ok true

/-- What the first value compares by is less than what the second one does. -/
def Precedes (v w : Value) : Prop := v.comparable.compare? w.comparable = some (.ok (some .lt))

/-- The outcome of a comparison, and what conditions and sorts make of it. -/
structure ComparesTo (v w : Value) (o : Ordering) : Prop where
  order : v.comparable.compare? w.comparable = some (.ok (some o))
  equal : v.comparable.equal w.comparable = .ok (o == .eq)
  equalTest : ∀ attr, Condition.holdsOn ⟨attr, .equal, [w]⟩ v = .ok (o == .eq)
  lessTest : ∀ attr, Condition.holdsOn ⟨attr, .lessThan, [w]⟩ v = .ok (o == .lt)
  sort : SortKey.valueLess false v.comparable w.comparable = .ok (o == .lt)
  tie : v.comparable.order w.comparable = o

variable {v w : Value}

theorem comparable_eq_absent_iff : v.comparable = .absent ↔ v.bare = .absent := by
  induction v with
  | aliased _ _ v ih => exact ih
  | _ => simp [comparable, bare]

theorem isConcrete_iff : v.isConcrete = true ↔ v ≠ .null ∧ v ≠ .absent := by
  cases v <;> simp [isConcrete]

theorem isOrdinary_iff_isProper : v.IsOrdinary ↔ v.comparable.IsProper := by
  have hconcrete : v.bare.isConcrete = true ↔ v.comparable ≠ .null ∧ v.comparable ≠ .absent := by
    rw [isConcrete_iff, ne_eq, ne_eq, ← comparable_eq_null_iff, ← comparable_eq_absent_iff]
  constructor
  · rintro ⟨hv, hnan⟩
    exact ⟨hnan, (hconcrete.mp hv).1, (hconcrete.mp hv).2⟩
  · rintro ⟨hnan, hnull, habsent⟩
    exact ⟨hconcrete.mpr ⟨hnull, habsent⟩, hnan⟩

theorem equals_iff (hv : v.comparable.isNaN = false) (hw : w.comparable.isNaN = false) :
    v.Equals w ↔ v.comparable.Matches w.comparable :=
  equal_eq_true_iff hv hw

theorem joinsWith_iff (hv : v.IsOrdinary) (hw : w.IsOrdinary) :
    v.JoinsWith w ↔ v.comparable.asKey.Matches w.comparable.asKey := by
  have hvkey : v.comparable.asKey.isNaN = false := (isNaN_asKey _).trans hv.notNaN
  have hwkey : w.comparable.asKey.isNaN = false := (isNaN_asKey _).trans hw.notNaN
  rw [← equal_eq_true_iff hvkey hwkey]
  simp [JoinsWith, joinKey_of_bare hv.concrete, joinKey_of_bare hw.concrete]

/-- Values of one kind compare as their places do. -/
theorem comparesTo (hv : v.IsOrdinary) (hw : w.IsOrdinary)
    (hkind : v.comparable.orderingKind = w.comparable.orderingKind) :
    v.ComparesTo w (compare v.comparable.place w.comparable.place) := by
  obtain ⟨hnull, habsent⟩ := (isOrdinary_iff_isProper.mp hv).orderingKind_ne
  have horder := compare?_eq hkind hv.notNaN hw.notNaN hnull habsent
  have hequal : v.comparable.equal w.comparable =
      .ok (compare v.comparable.place w.comparable.place == .eq) := by
    rw [equal_eq hkind hv.notNaN hw.notNaN]
    refine congrArg Except.ok (Bool.eq_iff_iff.mpr ?_)
    simp [compare_eq_iff_eq]
  refine ⟨horder, hequal, fun attr ↦ ?_, fun attr ↦ ?_, ?_, order_eq hkind hv.notNaN hw.notNaN⟩
  · change Except.mapError _ (v.comparable.equal (Condition.coerce v.comparable w.comparable)) = _
    rw [coerce_of_kind_eq hkind, hequal]
    rfl
  · change Condition.compareWith _ _ (Condition.coerce v.comparable w.comparable) = _
    rw [coerce_of_kind_eq hkind, Condition.compareWith, horder]
    rfl
  · rw [SortKey.valueLess_of_kind_eq hkind hv.notNaN hw.notNaN (by simp)]
    refine congrArg Except.ok (Bool.eq_iff_iff.mpr ?_)
    simp [compare_lt_iff_lt]

theorem precedes_iff (hv : v.IsOrdinary) (hw : w.IsOrdinary)
    (hkind : v.comparable.orderingKind = w.comparable.orderingKind) :
    v.Precedes w ↔ v.comparable.place < w.comparable.place := by
  rw [Precedes, (comparesTo hv hw hkind).order]
  simp [compare_lt_iff_lt]

theorem equivalence_equals : Equivalence fun v w : NotNaN ↦ v.1.Equals w.1 := by
  have hmatches : (fun v w : NotNaN ↦ v.1.Equals w.1) =
      InvImage Matches fun v : NotNaN ↦ v.1.comparable := by
    funext v w
    exact propext (equals_iff v.2 w.2)
  rw [hmatches]
  exact equivalence_matches.comap _

theorem equivalence_joinsWith : Equivalence fun v w : Ordinary ↦ v.1.JoinsWith w.1 := by
  have hmatches : (fun v w : Ordinary ↦ v.1.JoinsWith w.1) =
      InvImage Matches fun v : Ordinary ↦ v.1.comparable.asKey := by
    funext v w
    exact propext (joinsWith_iff v.2 w.2)
  rw [hmatches]
  exact equivalence_matches.comap _

theorem isStrictOrderUpTo_precedes (kind : OrderingKind) :
    IsStrictOrderUpTo (fun v w : OfKind kind ↦ v.1.Equals w.1) fun v w ↦ v.1.Precedes w.1 := by
  apply isStrictOrderUpTo_of_place fun v : OfKind kind ↦ v.1.comparable.place
  · rintro ⟨v, hv, hvkind⟩ ⟨w, hw, hwkind⟩
    exact (equals_iff hv.notNaN hw.notNaN).trans (and_iff_right (hvkind.trans hwkind.symm))
  · rintro ⟨v, hv, hvkind⟩ ⟨w, hw, hwkind⟩
    exact precedes_iff hv hw (hvkind.trans hwkind.symm)

/-- Ordinary values have join keys, and comparing these gives an answer, the one by which records
are looked up. -/
theorem exists_joined (hv : v.IsOrdinary) (hw : w.IsOrdinary) :
    ∃ k l joined, v.joinKey = some k ∧ w.joinKey = some l ∧ k.equal l = .ok joined ∧
      ∀ attr attr' r r', KeyedRecord.sameKey ⟨k, attr, r⟩ ⟨l, attr', r'⟩ = joined := by
  have hvkey : v.comparable.asKey.isNaN = false := (isNaN_asKey _).trans hv.notNaN
  have hwkey : w.comparable.asKey.isNaN = false := (isNaN_asKey _).trans hw.notNaN
  refine ⟨_, _, _, joinKey_of_bare hv.concrete, joinKey_of_bare hw.concrete,
    equal_eq_matches hvkey hwkey, fun attr attr' r r' ↦ ?_⟩
  rw [KeyedRecord.sameKey, if_neg (by simp [hvkey]), equal_eq_matches hvkey hwkey]

/-! ## Numbers -/

/-- The number in a value, if there is one and it is no NaN: option sets, money and aliases are
unwrapped. -/
def denoted : Value → Option (WithBotTop ℚ)
  | .number n => n.denoted
  | .option n => (Number.integer n).denoted
  | .money amount => (Number.decimal amount).denoted
  | .aliased _ _ v => v.denoted
  | _ => none

theorem denoted_eq_some_iff_comparable {p : WithBotTop ℚ} :
    v.denoted = some p ↔ ∃ n, v.comparable = .number n ∧ n.denoted = some p := by
  induction v with
  | aliased _ _ v ih => exact ih
  | _ => simp [denoted, comparable]

/-- The values that hold numbers are those of the kind of numbers, and they lie where the numbers
do. -/
theorem denoted_eq_some_iff {p : WithBotTop ℚ} :
    v.denoted = some p ↔ v.IsOrdinary ∧ v.comparable.orderingKind = .number ∧
      v.comparable.place = toLex (.inl p) := by
  rw [denoted_eq_some_iff_comparable, isOrdinary_iff_isProper]
  constructor
  · rintro ⟨n, hn, hp⟩
    obtain ⟨hnan, rfl⟩ := n.denoted_eq_some_iff.mp hp
    rw [hn]
    exact ⟨⟨hnan, by simp, by simp⟩, rfl, rfl⟩
  · rintro ⟨hproper, hkind, hplace⟩
    obtain ⟨n, hn⟩ := exists_eq_number hkind
    rw [hn] at hproper hplace
    exact ⟨n, hn, n.denoted_eq_some_iff.mpr
      ⟨hproper.notNaN, Sum.inl_injective (toLex.injective hplace)⟩⟩

section denoted

variable {p q : WithBotTop ℚ} (hp : v.denoted = some p) (hq : w.denoted = some q)

include hp hq

theorem equals_iff_denoted : v.Equals w ↔ p = q := by
  obtain ⟨hv, hvkind, hvplace⟩ := denoted_eq_some_iff.mp hp
  obtain ⟨hw, hwkind, hwplace⟩ := denoted_eq_some_iff.mp hq
  rw [equals_iff hv.notNaN hw.notNaN, Matches, hvplace, hwplace, hvkind, hwkind]
  simp

theorem joinsWith_iff_denoted : v.JoinsWith w ↔ p = q := by
  obtain ⟨hv, -, -⟩ := denoted_eq_some_iff.mp hp
  obtain ⟨hw, -, -⟩ := denoted_eq_some_iff.mp hq
  obtain ⟨m, hm, -⟩ := denoted_eq_some_iff_comparable.mp hp
  obtain ⟨n, hn, -⟩ := denoted_eq_some_iff_comparable.mp hq
  rw [← equals_iff_denoted hp hq, joinsWith_iff hv hw, equals_iff hv.notNaN hw.notNaN, hm, hn]
  rfl

theorem precedes_iff_denoted : v.Precedes w ↔ p < q := by
  obtain ⟨hv, hvkind, hvplace⟩ := denoted_eq_some_iff.mp hp
  obtain ⟨hw, hwkind, hwplace⟩ := denoted_eq_some_iff.mp hq
  rw [precedes_iff hv hw (hvkind.trans hwkind.symm), hvplace, hwplace]
  exact Sum.Lex.inl_lt_inl_iff

end denoted

/-- Equality of join keys and equality are equivalences, and within each kind what is not equal is
ordered. Every comparison has an outcome, on which tests, sorts and look-ups of keys agree. Numbers
compare as what they denote does. -/
theorem comparison_isSound :
    Equivalence (fun v w : Ordinary ↦ v.1.JoinsWith w.1) ∧
    Equivalence (fun v w : NotNaN ↦ v.1.Equals w.1) ∧
    (∀ kind, IsStrictOrderUpTo (fun v w : OfKind kind ↦ v.1.Equals w.1)
      fun v w ↦ v.1.Precedes w.1) ∧
    (∀ v w : Value, v.IsOrdinary → w.IsOrdinary →
      (∃ equal, v.comparable.equal w.comparable = .ok equal) ∧
      (∃ k l joined, v.joinKey = some k ∧ w.joinKey = some l ∧ k.equal l = .ok joined ∧
        ∀ attr attr' r r', KeyedRecord.sameKey ⟨k, attr, r⟩ ⟨l, attr', r'⟩ = joined) ∧
      (v.comparable.orderingKind = w.comparable.orderingKind → ∃ o, v.ComparesTo w o)) ∧
    (∀ v : Value, (v.IsOrdinary ∧ v.comparable.orderingKind = .number) ↔
      ∃ p, v.denoted = some p) ∧
    ∀ v w : Value, ∀ p q, v.denoted = some p → w.denoted = some q →
      (v.JoinsWith w ↔ p = q) ∧ (v.Equals w ↔ p = q) ∧ (v.Precedes w ↔ p < q) := by
  refine ⟨equivalence_joinsWith, equivalence_equals, isStrictOrderUpTo_precedes, ?_, ?_, ?_⟩
  · intro v w hv hw
    exact ⟨⟨_, equal_eq_matches hv.notNaN hw.notNaN⟩, exists_joined hv hw,
      fun hkind ↦ ⟨_, comparesTo hv hw hkind⟩⟩
  · intro v
    constructor
    · rintro ⟨hv, hkind⟩
      obtain ⟨n, hn⟩ := exists_eq_number hkind
      exact ⟨n.place, denoted_eq_some_iff.mpr ⟨hv, hkind, by rw [hn]; rfl⟩⟩
    · rintro ⟨p, hp⟩
      obtain ⟨hv, hkind, -⟩ := denoted_eq_some_iff.mp hp
      exact ⟨hv, hkind⟩
  · intro v w p q hp hq
    exact ⟨joinsWith_iff_denoted hp hq, equals_iff_denoted hp hq, precedes_iff_denoted hp hq⟩

/-- An integer that is no double, read through a link. -/
def exampleWeight : Value := .aliased "parcel" "weight" (.option 9007199254740993)

/-- The double nearest to it. -/
def roundedWeight : Value := .number (.double (.finite false 4503599627370496 1075))

theorem comparison_isSound_example :
    (exampleWeight.IsOrdinary ∧ roundedWeight.IsOrdinary) ∧
      exampleWeight.comparable.orderingKind = roundedWeight.comparable.orderingKind ∧
      (∃ o, exampleWeight.ComparesTo roundedWeight o) ∧
      ¬exampleWeight.JoinsWith roundedWeight ∧ ¬exampleWeight.Equals roundedWeight ∧
      roundedWeight.Precedes exampleWeight := by
  obtain ⟨-, -, -, hdecided, -, hnumbers⟩ := comparison_isSound
  have hweight : exampleWeight.IsOrdinary := ⟨rfl, rfl⟩
  have hrounded : roundedWeight.IsOrdinary := ⟨rfl, rfl⟩
  have hless : ((signedRatio false ((4503599627370496 : ℕ) * 2 ^ ((1075 : ℕ) - 1074 : ℤ)) : ℚ) :
      WithBotTop ℚ) < ((9007199254740993 : ℤ) : ℚ) := by
    rw [WithBotTop.coe_lt_coe]
    norm_num [signedRatio]
  obtain ⟨hjoins, hequals, -⟩ := hnumbers exampleWeight roundedWeight _ _ rfl rfl
  obtain ⟨-, -, hprecedes⟩ := hnumbers roundedWeight exampleWeight _ _ rfl rfl
  exact ⟨⟨hweight, hrounded⟩, rfl, (hdecided _ _ hweight hrounded).2.2 rfl,
    mt hjoins.mp hless.ne', mt hequals.mp hless.ne', hprecedes.mpr hless⟩

end Value

end OrgService
