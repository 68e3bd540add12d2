import OrgService.Proofs.Text.Literal

/-!
# Written identifiers

Reading the written form of an identifier gives the identifier back, so that no two of them are
written alike.
-/

namespace OrgService.Guid

open Text

theorem mem_grouped {sizes : List Nat} {cs : List Char} {c : Char} (hc : c ∈ grouped sizes cs) :
    c ∈ cs ∨ c = '-' := by
  induction sizes generalizing cs with
  | nil => exact .inl hc
  | cons size sizes ih =>
      cases sizes with
      | nil => exact .inl hc
      | cons next sizes =>
          rcases List.mem_append.mp hc with hc | hc
          · exact .inl (List.mem_of_mem_take hc)
          · rcases List.mem_cons.mp hc with hc | hc
            · exact .inr hc
            · exact (ih hc).imp_left List.mem_of_mem_drop

theorem filter_grouped {sizes : List Nat} {cs : List Char} (hcs : ∀ c ∈ cs, c ≠ '-') :
    (grouped sizes cs).filter (· != '-') = cs := by
  have hkept : ∀ ds : List Char, (∀ c ∈ ds, c ≠ '-') → ds.filter (· != '-') = ds :=
    fun ds hds ↦ List.filter_eq_self.mpr fun c hc ↦ bne_iff_ne.mpr (hds c hc)
  induction sizes generalizing cs with
  | nil => exact hkept cs hcs
  | cons size sizes ih =>
      cases sizes with
      | nil => exact hkept cs hcs
      | cons next sizes =>
          have hcut : grouped (size :: next :: sizes) cs =
              cs.take size ++ '-' :: grouped (next :: sizes) (cs.drop size) := rfl
          rw [hcut, List.filter_append, List.filter_cons_of_neg (by simp),
            ih fun c hc ↦ hcs c (List.mem_of_mem_drop hc),
            hkept _ fun c hc ↦ hcs c (List.mem_of_mem_take hc), List.take_append_drop]

theorem removeAll_of_not_mem {d : Char} {word cs : List Char} (h : d ∉ cs) :
    removeAll (d :: word) cs = cs := by
  induction cs with
  | nil => rw [removeAll]
  | cons c cs ih =>
      simp only [List.mem_cons, not_or] at h
      have hdiffers : (d :: word).isPrefixOf (c :: cs) = false := by
        simp [List.isPrefixOf, h.1]
      rw [removeAll, hdiffers, if_neg (by simp), ih h.2]

theorem undecorated_toString (g : Guid) : undecorated g.toString = hexDigits 32 g.toNat := by
  have hchars : ∀ c ∈ grouped [8, 4, 4, 4, 12] (hexDigits 32 g.toNat), IsHexDigit c ∨ c = '-' :=
    fun c hc ↦ (mem_grouped hc).imp_left IsHexDigit.of_mem
  have hu : 'u' ∉ grouped [8, 4, 4, 4, 12] (hexDigits 32 g.toNat) := by
    intro hmem
    rcases hchars _ hmem with h | h
    · exact h.ne rfl rfl
    · exact absurd h (by decide)
  have hbraces : ∀ c ∈ grouped [8, 4, 4, 4, 12] (hexDigits 32 g.toNat),
      (c == '\x7b' || c == '\x7d') = false := by
    intro c hc
    rcases hchars c hc with h | rfl
    · exact h.elim (P := fun c ↦ (c == '\x7b' || c == '\x7d') = false) (by decide)
    · decide
  have hurn : removeAll "urn:".toList (grouped [8, 4, 4, 4, 12] (hexDigits 32 g.toNat)) = _ :=
    removeAll_of_not_mem hu
  have huuid : removeAll "uuid:".toList (grouped [8, 4, 4, 4, 12] (hexDigits 32 g.toNat)) = _ :=
    removeAll_of_not_mem hu
  simp only [undecorated, toString, String.toList_ofList, hurn, huuid,
    trimBoth_of_forall hbraces]
  exact filter_grouped fun c hc ↦ (IsHexDigit.of_mem hc).ne rfl

theorem ofNat_toNat (g : Guid) : ofNat g.toNat = g := by
  obtain ⟨n, hn⟩ := g
  simp only [ofNat, Nat.mod_eq_of_lt hn]

theorem ofNat_inj {m n : Nat} (hm : m < 2 ^ 128) (hn : n < 2 ^ 128) :
    ofNat m = ofNat n ↔ m = n := by
  constructor
  · intro heq
    calc m = (ofNat m).toNat := (Nat.mod_eq_of_lt hm).symm
      _ = (ofNat n).toNat := congrArg toNat heq
      _ = n := Nat.mod_eq_of_lt hn
  · rintro rfl
    rfl

theorem parse_toString (g : Guid) : parse g.toString = .ok g := by
  have hlt : g.toNat < 16 ^ 32 := Nat.lt_of_lt_of_eq g.isLt (by decide)
  have hread := hexInteger?_hexDigits (show 0 < 32 by decide) g.toNat
  rw [Nat.mod_eq_of_lt hlt] at hread
  rw [parse, undecorated_toString, hread]
  simp only [length_hexDigits, ne_eq, not_true_eq_false, if_false, Int.toNat_natCast, ofNat_toNat]

theorem parse?_toString (g : Guid) : parse? g.toString = some g := by
  rw [parse?, parse_toString]
  rfl

theorem toString_injective {g h : Guid} (heq : g.toString = h.toString) : g = h := by
  have hparse := parse_toString g
  rw [heq, parse_toString] at hparse
  exact (Except.ok.inj hparse).symm

end OrgService.Guid
