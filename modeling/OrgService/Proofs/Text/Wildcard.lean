import Mathlib.Data.List.Forall2
import OrgService.Proofs.Text.Folding
import OrgService.Text.Wildcard

/-!
# Wildcards cut texts into pieces

A text matches a pattern if and only if it can be cut into consecutive pieces, one for each
character of the pattern. Without wildcards only the pattern itself matches; with a percent sign
behind it or before it, the texts that begin or end with it do. Case folding neither makes a
wildcard out of another character nor takes one away.
-/

namespace OrgService.Text

/-- What a character of a pattern stands for. -/
inductive StandsFor : Char → List Char → Prop
  | anyText (piece : List Char) : StandsFor '%' piece
  | anyChar (c : Char) : StandsFor '_' [c]
  | itself {c : Char} (hpercent : c ≠ '%') (hunderscore : c ≠ '_') : StandsFor c [c]

/-- A text can be cut into consecutive pieces, one for each character of a pattern in order. -/
def Cuts (pattern text : List Char) : Prop :=
  ∃ pieces : List (List Char), pieces.flatten = text ∧ List.Forall₂ StandsFor pattern pieces

/-- A pattern without wildcards. -/
def IsPlain (pattern : List Char) : Prop := '%' ∉ pattern ∧ '_' ∉ pattern

variable {c : Char} {ps qs text rest : List Char}

/-! ## Pieces -/

theorem standsFor_of_ne (hc : c ≠ '%') {piece : List Char} :
    StandsFor c piece ↔ ∃ d, piece = [d] ∧ (c = '_' ∨ c = d) := by
  constructor
  · rintro (_ | d | _)
    · exact absurd rfl hc
    · exact ⟨d, rfl, .inl rfl⟩
    · exact ⟨c, rfl, .inr rfl⟩
  · rintro ⟨d, rfl, rfl | rfl⟩
    · exact .anyChar d
    · by_cases hunderscore : c = '_'
      · subst hunderscore
        exact .anyChar '_'
      · exact .itself hc hunderscore

@[simp] theorem cuts_nil : Cuts [] text ↔ text = [] := by
  constructor
  · rintro ⟨_, rfl, ⟨⟩⟩
    rfl
  · rintro rfl
    exact ⟨[], rfl, .nil⟩

/-- The first piece is cut off in front, and the rest is cut by the rest of the pattern. -/
theorem cuts_cons :
    Cuts (c :: ps) text ↔
      ∃ piece rest, text = piece ++ rest ∧ StandsFor c piece ∧ Cuts ps rest := by
  constructor
  · rintro ⟨_, rfl, _ | ⟨hpiece, hpieces⟩⟩
    exact ⟨_, _, List.flatten_cons, hpiece, _, rfl, hpieces⟩
  · rintro ⟨piece, _, rfl, hpiece, pieces, rfl, hpieces⟩
    exact ⟨piece :: pieces, List.flatten_cons, .cons hpiece hpieces⟩

theorem cuts_percent_cons : Cuts ('%' :: ps) text ↔ ∃ rest, rest <:+ text ∧ Cuts ps rest := by
  rw [cuts_cons]
  constructor
  · rintro ⟨piece, rest, rfl, -, hrest⟩
    exact ⟨rest, List.suffix_append piece rest, hrest⟩
  · rintro ⟨rest, ⟨piece, rfl⟩, hrest⟩
    exact ⟨piece, rest, rfl, .anyText piece, hrest⟩

theorem cuts_cons_of_ne (hc : c ≠ '%') :
    Cuts (c :: ps) text ↔ ∃ d rest, text = d :: rest ∧ (c = '_' ∨ c = d) ∧ Cuts ps rest := by
  simp only [cuts_cons, standsFor_of_ne hc]
  constructor
  · rintro ⟨_, rest, rfl, ⟨d, rfl, hd⟩, hrest⟩
    exact ⟨d, rest, rfl, hd, hrest⟩
  · rintro ⟨d, rest, rfl, hd, hrest⟩
    exact ⟨[d], rest, rfl, ⟨d, rfl, hd⟩, hrest⟩

/-! ## Matching -/

theorem mem_suffixes : rest ∈ suffixes text ↔ rest <:+ text := by
  induction text with
  | nil => simp [suffixes]
  | cons c text ih => rw [suffixes, List.mem_cons, ih, List.suffix_cons_iff]

/-- Trying all that can be left behind a percent sign finds the cut, if there is one. -/
theorem likePattern_iff_cuts : likePattern ps text = true ↔ Cuts ps text := by
  induction ps generalizing text with
  | nil => simp [likePattern]
  | cons p ps ih =>
      by_cases hp : p = '%'
      · subst hp
        simp only [likePattern, if_pos, List.any_eq_true, mem_suffixes, ih, cuts_percent_cons]
      · rw [cuts_cons_of_ne hp]
        cases text with
        | nil => simp [likePattern, hp]
        | cons c rest => simp [likePattern, hp, ih]

/-! ## Patterns without wildcards -/

/-- What has no wildcard is cut off as it stands. -/
theorem IsPlain.cuts_append_iff (hps : IsPlain ps) :
    Cuts (ps ++ qs) text ↔ ∃ rest, text = ps ++ rest ∧ Cuts qs rest := by
  induction ps generalizing text with
  | nil => simp
  | cons p ps ih =>
      simp only [IsPlain, List.mem_cons, not_or] at hps
      obtain ⟨⟨hpercent, hpercents⟩, hunderscore, hunderscores⟩ := hps
      rw [List.cons_append, cuts_cons_of_ne (Ne.symm hpercent)]
      constructor
      · rintro ⟨_, _, rfl, rfl | rfl, hcuts⟩
        · exact absurd rfl hunderscore
        · obtain ⟨rest, rfl, hrest⟩ := (ih ⟨hpercents, hunderscores⟩).mp hcuts
          exact ⟨rest, rfl, hrest⟩
      · rintro ⟨rest, rfl, hrest⟩
        have hcuts := (ih ⟨hpercents, hunderscores⟩).mpr ⟨rest, rfl, hrest⟩
        exact ⟨p, ps ++ rest, rfl, .inr rfl, hcuts⟩

theorem IsPlain.cuts_iff (hps : IsPlain ps) : Cuts ps text ↔ text = ps := by
  have hcuts : Cuts (ps ++ []) text ↔ ∃ rest, text = ps ++ rest ∧ Cuts [] rest :=
    hps.cuts_append_iff
  simpa using hcuts

@[simp] theorem cuts_percent : Cuts ['%'] text :=
  cuts_percent_cons.mpr ⟨[], List.nil_suffix, cuts_nil.mpr rfl⟩

theorem IsPlain.cuts_append_percent_iff (hps : IsPlain ps) :
    Cuts (ps ++ ['%']) text ↔ ps <+: text := by
  rw [hps.cuts_append_iff]
  constructor
  · rintro ⟨rest, rfl, -⟩
    exact List.prefix_append ps rest
  · rintro ⟨rest, rfl⟩
    exact ⟨rest, rfl, cuts_percent⟩

theorem IsPlain.cuts_percent_cons_iff (hps : IsPlain ps) :
    Cuts ('%' :: ps) text ↔ ps <:+ text := by
  simp only [cuts_percent_cons, hps.cuts_iff, exists_eq_right]

/-! ## Case folding -/

theorem caseFold_append (s t : String) : caseFold (s ++ t) = caseFold s ++ caseFold t := by
  simp [caseFold]

/-- A number that is no code point gives the character zero. -/
theorem toNat_ofNat_eq_or (n : Nat) : (Char.ofNat n).toNat = n ∨ (Char.ofNat n).toNat = 0 := by
  by_cases h : n.isValidChar
  · have hvalid : Char.ofNat n = Char.ofNatAux n h := dif_pos h
    exact .inl (congrArg Char.toNat hvalid)
  · have hinvalid : Char.ofNat n = '\x00' := dif_neg h
    exact .inr (congrArg Char.toNat hinvalid)

/-- Every character that a run of the folding table leads to lies behind the wildcards. -/
theorem apply_foldRuns_ne {d : Char} (hd : d.toNat < 0x60) (hpositive : d.toNat ≠ 0)
    (hc : ¬c.toNat < 0x80) : CaseRun.apply foldRuns c ≠ d := by
  have hruns : foldRuns.toList.all (fun r ↦ decide (0x60 ≤ r.first + r.shift)) = true := by
    decide +kernel
  rintro rfl
  unfold CaseRun.apply at hd hpositive
  cases hfound : foldRuns.find? (·.covers c.toNat) with
  | none =>
      simp only [hfound] at hd
      omega
  | some r =>
      simp only [hfound] at hd hpositive
      have hmem := Array.mem_toList_iff.mpr (Array.mem_of_find?_eq_some hfound)
      have hshift := of_decide_eq_true (List.all_eq_true.mp hruns r hmem)
      have hcovers := Array.find?_some hfound
      simp only [CaseRun.covers, Bool.and_eq_true, decide_eq_true_eq] at hcovers
      rcases toNat_ofNat_eq_or (Int.toNat (c.toNat + r.shift)) with hcode | hcode
      · omega
      · exact hpositive hcode

/-- Only a wildcard folds to a wildcard. -/
theorem eq_of_mem_foldChar {d : Char} (hd : d ∈ ['%', '_']) (hmem : d ∈ foldChar c) : c = d := by
  have hcodes : ∀ d ∈ ['%', '_'], d.toNat < 0x60 ∧ d.toNat ≠ 0 := forall_mem_of_all (by decide)
  have hlower : ∀ d ∈ ['%', '_'], ∀ n < 128,
      (Char.ofNat n).toLower = d → Char.ofNat n = d := forall_mem_of_all (by decide)
  have hexpansions : ∀ d ∈ ['%', '_'], foldExpansions.toList.all (fun e ↦ !e.2.contains d) = true :=
    forall_mem_of_all (by decide +kernel)
  unfold foldChar at hmem
  split at hmem
  · have heq := List.mem_singleton.mp hmem
    exact toLower_elim (P := fun c e ↦ e = d → c = d) (fun _ ↦ id) (hlower d hd) c heq.symm
  · rename_i hascii
    split at hmem
    · rename_i e hfound
      have he := Array.mem_toList_iff.mpr (Array.mem_of_find?_eq_some hfound)
      have hclear := List.all_eq_true.mp (hexpansions d hd) e he
      simp [hmem] at hclear
    · have heq := List.mem_singleton.mp hmem
      exact absurd heq.symm (apply_foldRuns_ne (hcodes d hd).1 (hcodes d hd).2 hascii)

theorem IsPlain.caseFold {p : String} (hp : IsPlain p.toList) :
    IsPlain (caseFold p).toList := by
  have hnew : ∀ d ∈ ['%', '_'], d ∈ (Text.caseFold p).toList → d ∈ p.toList := by
    intro d hd hmem
    rw [Text.caseFold, String.toList_ofList] at hmem
    obtain ⟨c, hc, hmem⟩ := List.mem_flatMap.mp hmem
    exact eq_of_mem_foldChar hd hmem ▸ hc
  exact ⟨mt (hnew '%' (by simp)) hp.1, mt (hnew '_' (by simp)) hp.2⟩

end OrgService.Text
