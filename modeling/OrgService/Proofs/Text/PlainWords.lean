import OrgService.Proofs.Text.Folding
import OrgService.Text.LowerCase

/-!
# Words in ASCII

A text becomes a word in ASCII, by lower case or by case folding, if it spells the word in letters
of either case. There are two exceptions: the sign for a kelvin becomes a k, and the long s is
folded to an s.
-/

namespace OrgService.Text

/-- A text spells a word in ASCII letters of either case. -/
def Spells (text word : String) : Prop := text.toList.map Char.toLower = word.toList

instance (text word : String) : Decidable (Spells text word) := inferInstanceAs (Decidable (_ = _))

theorem Spells.unique {text word word' : String} (h : Spells text word) (h' : Spells text word') :
    word = word' :=
  String.toList_inj.mp (Eq.trans (Eq.symm h) h')

/-- Characters of ASCII other than some marks. -/
def Avoids (marks word : List Char) : Prop := ∀ c ∈ word, c.toNat < 0x80 ∧ c ∉ marks

instance (marks word : List Char) : Decidable (Avoids marks word) :=
  List.decidableBAll _ word

/-! ## Single characters -/

namespace CaseRun

def kelvin : CaseRun := ⟨0x212A, 0x212A, 1, -8383⟩

def longS : CaseRun := ⟨0x17F, 0x17F, 1, -268⟩

/-- The characters that a run moves do not get into ASCII. -/
def staysBeyond (r : CaseRun) : Bool :=
  (0x80 ≤ r.first + r.shift && r.last + r.shift < 0xD800) ||
    (0xE000 ≤ r.first + r.shift && r.last + r.shift < 0x110000)

theorem not_ascii_of_staysBeyond {r : CaseRun} (hr : r.staysBeyond = true) {n : ℕ}
    (hn : r.covers n = true) : ¬(Char.ofNat (Int.toNat (n + r.shift))).toNat < 0x80 := by
  simp only [staysBeyond, Bool.or_eq_true, Bool.and_eq_true, decide_eq_true_eq] at hr
  simp only [covers, Bool.and_eq_true, decide_eq_true_eq] at hn
  have hvalid : Nat.isValidChar (Int.toNat (n + r.shift)) := by
    unfold Nat.isValidChar
    omega
  have hcode : (Char.ofNat (Int.toNat (n + r.shift))).toNat = Int.toNat (n + r.shift) := by
    rw [Char.ofNat, dif_pos hvalid]
    rfl
  omega

/-- Beyond ASCII a character stays there unless one of the other runs moves it. -/
theorem apply_beyond {runs : Array CaseRun} {others : List CaseRun}
    (hruns : runs.toList.all (fun r ↦ others.contains r || r.staysBeyond) = true) {c : Char}
    (hc : ¬c.toNat < 0x80) : ¬(apply runs c).toNat < 0x80 ∨
      ∃ r ∈ others, r.covers c.toNat = true ∧
        apply runs c = Char.ofNat (Int.toNat (c.toNat + r.shift)) := by
  unfold apply
  split
  · rename_i r hr
    have hcovers := Array.find?_some hr
    have hmem := Array.mem_toList_iff.mpr (Array.mem_of_find?_eq_some hr)
    rcases Bool.or_eq_true_iff.mp (List.all_eq_true.mp hruns r hmem) with hother | hstays
    · exact .inr ⟨r, List.contains_iff_mem.mp hother, hcovers, rfl⟩
    · exact .inl (not_ascii_of_staysBeyond hstays hcovers)
  · exact .inl hc

theorem eq_of_covers {r : CaseRun} {n : ℕ} (hr : r.first = r.last) (hn : r.covers n = true) :
    n = r.first := by
  simp only [covers, Bool.and_eq_true, decide_eq_true_eq] at hn
  omega

end CaseRun

theorem lowerRuns_stayBeyond :
    lowerRuns.toList.all (fun r ↦ [CaseRun.kelvin].contains r || r.staysBeyond) = true := by
  decide +kernel

theorem foldRuns_stayBeyond : foldRuns.toList.all
    (fun r ↦ [CaseRun.kelvin, CaseRun.longS].contains r || r.staysBeyond) = true := by
  decide +kernel

theorem foldExpansions_beyond : foldExpansions.toList.all (fun e ↦
    e.2.any (fun d ↦ !d.toNat.blt 0x80 || d == 'f') || e.2 == ['s', 's'] || e.2 == ['s', 't']) =
      true := by
  decide +kernel

/-- Beyond ASCII, lower case leads to another ASCII character than k only together with one that is
beyond. -/
theorem exists_mem_lowerChar {c : Char} (hc : ¬c.toNat < 0x80) (before after : List Char) :
    ∃ d ∈ lowerChar before c after, d.toNat < 0x80 → d = 'k' := by
  unfold lowerChar
  rw [if_neg hc]
  split
  · exact ⟨'\u0307', by simp, by decide⟩
  split
  · refine ⟨_, List.mem_singleton_self _, ?_⟩
    split <;> decide
  · refine ⟨_, List.mem_singleton_self _, fun hascii ↦ ?_⟩
    rcases CaseRun.apply_beyond lowerRuns_stayBeyond hc with hbeyond | ⟨r, hr, hcovers, happly⟩
    · exact absurd hascii hbeyond
    · obtain rfl := List.mem_singleton.mp hr
      rw [happly, CaseRun.eq_of_covers rfl hcovers]
      rfl

/-- Beyond ASCII, folding leads to ASCII only by way of f, k and s. -/
theorem foldChar_beyond {c : Char} (hc : ¬c.toNat < 0x80) :
    (∃ d ∈ foldChar c, d.toNat < 0x80 → d = 'f' ∨ d = 'k') ∨ foldChar c = ['s', 's'] ∨
      foldChar c = ['s', 't'] ∨ (foldChar c = ['s'] ∧ c = '\u017f') := by
  unfold foldChar
  rw [if_neg hc]
  split
  · rename_i e he
    have hmem := Array.mem_toList_iff.mpr (Array.mem_of_find?_eq_some he)
    have hexpansion := List.all_eq_true.mp foldExpansions_beyond e hmem
    simp only [Bool.or_eq_true, List.any_eq_true, beq_iff_eq] at hexpansion
    rcases hexpansion with (⟨d, hd, hbeyond⟩ | htwo) | htwo
    · refine .inl ⟨d, hd, fun hascii ↦ .inl (hbeyond.resolve_left ?_)⟩
      simpa using hascii
    · exact .inr (.inl htwo)
    · exact .inr (.inr (.inl htwo))
  · rcases CaseRun.apply_beyond foldRuns_stayBeyond hc with hbeyond | ⟨r, hr, hcovers, happly⟩
    · exact .inl ⟨_, List.mem_singleton_self _, fun hascii ↦ absurd hascii hbeyond⟩
    · simp only [List.mem_cons, List.not_mem_nil, or_false] at hr
      rcases hr with rfl | rfl
      · refine .inl ⟨_, List.mem_singleton_self _, fun _ ↦ .inr ?_⟩
        rw [happly, CaseRun.eq_of_covers rfl hcovers]
        rfl
      · have hcode : c.toNat = 0x17F := CaseRun.eq_of_covers rfl hcovers
        refine .inr (.inr (.inr ⟨?_, ?_⟩))
        · rw [happly, hcode]
          rfl
        · rw [← Char.ofNat_toNat c, hcode]

/-! ## Texts -/

variable {marks w : List Char}

/-- What one character of a text may become: in ASCII the character in lower case,
and beyond something with a character that is marked or beyond ASCII as well. -/
def Yields (marks : List Char) (c : Char) (part : List Char) : Prop :=
  if c.toNat < 0x80 then part = [c.toLower] else ∃ d ∈ part, d.toNat < 0x80 → d ∈ marks

theorem Yields.append_eq_iff {c : Char} {cs part rest : List Char} (h : Yields marks c part)
    (hw : Avoids marks w)
    (hrest : ∀ v, Avoids marks v → (rest = v ↔ cs.map Char.toLower = v)) :
    part ++ rest = w ↔ (c :: cs).map Char.toLower = w := by
  unfold Yields at h
  split at h
  · rw [h, List.map_cons, List.singleton_append]
    cases w with
    | nil => simp
    | cons d v =>
        rw [List.cons_eq_cons, List.cons_eq_cons, hrest v fun c hc ↦ hw c (.tail _ hc)]
  · rename_i hc
    obtain ⟨d, hd, hmarked⟩ := h
    constructor
    · rintro rfl
      obtain ⟨hascii, hplain⟩ := hw d (List.mem_append_left _ hd)
      exact absurd (hmarked hascii) hplain
    · rintro rfl
      rw [List.map_cons, toLower_of_not_ascii hc] at hw
      exact absurd (hw c List.mem_cons_self).1 hc

theorem lowerFrom_eq_iff {before cs : List Char} (hw : Avoids ['k'] w) :
    lowerFrom before cs = w ↔ cs.map Char.toLower = w := by
  induction cs generalizing before w with
  | nil => rfl
  | cons c cs ih =>
      have hyields : Yields ['k'] c (lowerChar before c cs) := by
        unfold Yields
        split
        · rename_i hc
          rw [lowerChar, if_pos hc]
        · rename_i hc
          simpa using exists_mem_lowerChar hc before cs
      exact hyields.append_eq_iff hw fun v hv ↦ ih hv

theorem flatMap_foldChar_eq_iff {cs : List Char} (hw : Avoids ['f', 'k', 's'] w) :
    cs.flatMap foldChar = w ↔ cs.map Char.toLower = w := by
  induction cs generalizing w with
  | nil => rfl
  | cons c cs ih =>
      have hyields : Yields ['f', 'k', 's'] c (foldChar c) := by
        unfold Yields
        split
        · rename_i hc
          rw [foldChar, if_pos hc]
        · rename_i hc
          rcases foldChar_beyond hc with ⟨d, hd, hmarked⟩ | hpart | hpart | ⟨hpart, -⟩
          · exact ⟨d, hd, fun hascii ↦ by simpa using (hmarked hascii).imp_right .inl⟩
          all_goals exact ⟨'s', by simp [hpart], by simp⟩
      exact hyields.append_eq_iff hw fun v hv ↦ ih hv

/-- An s may be written as a long one where words are folded. -/
theorem flatMap_foldChar_eq_cons_iff {cs : List Char} (hw : Avoids ['f', 'k', 's'] w)
    (ht : w.head? ≠ some 't') : cs.flatMap foldChar = 's' :: w ↔
      cs.map Char.toLower = 's' :: w ∨ cs.map Char.toLower = '\u017f' :: w := by
  cases cs with
  | nil => simp
  | cons c cs =>
      rw [List.flatMap_cons, List.map_cons, List.cons_eq_cons, List.cons_eq_cons, ← or_and_right,
        ← flatMap_foldChar_eq_iff hw]
      by_cases hc : c.toNat < 0x80
      · have hlong : c.toLower ≠ '\u017f' :=
          ascii_elim (P := fun c ↦ c.toLower ≠ '\u017f') (by decide) hc
        rw [foldChar, if_pos hc, List.singleton_append, List.cons_eq_cons, or_iff_left hlong]
      · have hs : c ≠ 's' := by
          rintro rfl
          exact hc (by decide)
        rw [toLower_of_not_ascii hc, or_iff_right hs]
        by_cases hlong : c = '\u017f'
        · have hfold : foldChar c = ['s'] := by
            subst hlong
            decide +kernel
          rw [hfold, List.singleton_append, List.cons_eq_cons, and_iff_right rfl,
            and_iff_right hlong]
        · refine iff_of_false (fun hword ↦ ?_) fun h ↦ hlong h.1
          rcases foldChar_beyond hc with ⟨d, hd, hmarked⟩ | hpart | hpart | ⟨-, hc⟩
          · have hmem : d ∈ 's' :: w := hword ▸ List.mem_append_left _ hd
            rcases List.mem_cons.mp hmem with rfl | hmem
            · simpa using hmarked (by decide)
            · obtain ⟨hascii, hplain⟩ := hw d hmem
              exact hplain (by simpa using (hmarked hascii).imp_right .inl)
          · rw [hpart, List.cons_append, List.cons_eq_cons] at hword
            exact (hw 's' (hword.2 ▸ by simp)).2 (by simp)
          · rw [hpart, List.cons_append, List.cons_eq_cons] at hword
            exact ht (hword.2 ▸ rfl)
          · exact hlong hc

variable {text word : String}

theorem lowerCase_eq_iff (hword : Avoids ['k'] word.toList) :
    lowerCase text = word ↔ Spells text word := by
  rw [lowerCase, ← String.toList_inj, String.toList_ofList]
  exact lowerFrom_eq_iff hword

theorem caseFold_eq_iff (hword : Avoids ['f', 'k', 's'] word.toList) :
    caseFold text = word ↔ Spells text word := by
  rw [caseFold, ← String.toList_inj, String.toList_ofList]
  exact flatMap_foldChar_eq_iff hword

theorem caseFold_eq_cons_iff (hw : Avoids ['f', 'k', 's'] w) (ht : w.head? ≠ some 't') :
    caseFold text = String.ofList ('s' :: w) ↔
      Spells text (String.ofList ('s' :: w)) ∨ Spells text (String.ofList ('\u017f' :: w)) := by
  rw [caseFold, String.ofList_inj, Spells, Spells, String.toList_ofList, String.toList_ofList]
  exact flatMap_foldChar_eq_cons_iff hw ht

/-! ## Blanks around words -/

theorem isBlank_toLower (c : Char) : isBlank c.toLower = isBlank c :=
  toLower_elim (P := fun c d ↦ isBlank d = isBlank c) (fun _ ↦ rfl) (by decide) c

theorem trimBlank_of_spells (h : Spells text word) (hword : word.toList.any isBlank = false) :
    trimBlank text = text := by
  have hblank : ∀ c ∈ text.toList, isBlank c = false := by
    intro c hc
    rw [← isBlank_toLower, ← Bool.not_eq_true]
    exact List.any_eq_false.mp hword _ (h ▸ List.mem_map_of_mem hc)
  rw [trimBlank, trimBoth_of_forall hblank, String.ofList_toList]

end OrgService.Text
