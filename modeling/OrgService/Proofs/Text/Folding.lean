import Mathlib.Data.List.TakeWhile
import OrgService.Proofs.Text.Literal
import OrgService.Text.CaseFold

/-!
# Literals in lower case

Case folding takes each character that a literal in base sixteen can be written with to lower case
and adds none; the literal says the same in lower case.
-/

namespace OrgService.Text

/-! ## Single characters -/

/-- What is checked for the 128 codes holds of every ASCII character. -/
theorem ascii_elim {P : Char → Prop} (h : ∀ n < 128, P (Char.ofNat n)) {c : Char}
    (hc : c.toNat < 0x80) : P c := by
  have hn := h c.toNat hc
  rwa [Char.ofNat_toNat] at hn

theorem toLower_of_not_ascii {c : Char} (hc : ¬c.toNat < 0x80) : c.toLower = c := by
  unfold Char.toLower
  rw [dif_neg]
  rintro ⟨-, hle⟩
  have hcode : c.toNat ≤ 90 := hle
  omega

/-- Only a letter in upper case differs from its lower case, which is 32 codes further. -/
theorem eq_or_upper_of_toLower {c d : Char} (h : c.toLower = d) :
    c = d ∨ 65 ≤ c.toNat ∧ d.toNat = c.toNat + 32 := by
  subst h
  unfold Char.toLower
  split
  · rename_i hupper
    refine .inr ⟨hupper.1, ?_⟩
    have hle : c.toNat ≤ 90 := hupper.2
    change (c.val + 32).toNat = c.val.toNat + 32
    rw [UInt32.toNat_add]
    exact Nat.mod_eq_of_lt (by change c.toNat + 32 < _; omega)
  · exact .inl rfl

/-- What holds of equal characters and of ASCII characters with their lower case holds of all
characters with theirs. -/
theorem toLower_elim {P : Char → Char → Prop} (hself : ∀ c, P c c)
    (h : ∀ n < 128, P (Char.ofNat n) (Char.ofNat n).toLower) (c : Char) : P c c.toLower := by
  by_cases hc : c.toNat < 0x80
  · exact ascii_elim (P := fun c ↦ P c c.toLower) h hc
  · rw [toLower_of_not_ascii hc]
    exact hself c

theorem isLiteralBlank_toLower (c : Char) : isLiteralBlank c.toLower = isLiteralBlank c :=
  toLower_elim (P := fun c d ↦ isLiteralBlank d = isLiteralBlank c) (fun _ ↦ rfl) (by decide) c

theorem hexValue?_toLower (c : Char) : hexValue? c.toLower = hexValue? c :=
  toLower_elim (P := fun c d ↦ hexValue? d = hexValue? c) (fun _ ↦ rfl) (by decide) c

theorem lt_of_digitValue? {c : Char} {d : Nat} (h : digitValue? c = some d) : d < 10 := by
  unfold digitValue? at h
  split at h
  · rename_i hc
    have hlt : c.isDigit = true → c.toNat < 0x3A :=
      ascii_elim (P := fun c ↦ c.isDigit = true → c.toNat < 0x3A) (by decide) hc
    split at h
    · rename_i hdigit
      have hcode := hlt hdigit
      have hd := Option.some.inj h
      omega
    · contradiction
  · obtain ⟨z, hz, rfl⟩ := Option.map_eq_some_iff.mp h
    have hrange := Array.find?_some hz
    simp only [Bool.and_eq_true, decide_eq_true_eq] at hrange
    omega

theorem asciiForm_toLower (c : Char) : asciiForm c.toLower = (asciiForm c).toLower := by
  by_cases hc : c.toNat < 0x80
  · exact ascii_elim (P := fun c ↦ asciiForm c.toLower = (asciiForm c).toLower) (by decide) hc
  · rw [toLower_of_not_ascii hc]
    unfold asciiForm
    rw [if_neg hc]
    split
    · rfl
    · split
      · rename_i d hd
        have hdigits : ∀ d < 10, Char.ofNat (0x30 + d) = (Char.ofNat (0x30 + d)).toLower := by
          decide
        exact hdigits d (lt_of_digitValue? hd)
      · exact (toLower_of_not_ascii hc).symm

/-! ## Literals -/

theorem trimBoth_map {p : Char → Bool} {f : Char → Char} (h : ∀ c, p (f c) = p c)
    (cs : List Char) : trimBoth p (cs.map f) = (trimBoth p cs).map f := by
  have hp : p ∘ f = p := funext h
  simp only [trimBoth, List.dropWhile_map, hp, ← List.map_reverse]

theorem eq_mark_of_toLower {c d : Char} (hd : d ∈ ['_', '-', '+', '0']) :
    c.toLower = d ↔ c = d := by
  have hmarks : ∀ d ∈ ['_', '-', '+', '0'], d.toNat < 97 ∧ d.toLower = d :=
    forall_mem_of_all (by decide)
  obtain ⟨hmark, hlower⟩ := hmarks d hd
  constructor
  · intro h
    rcases eq_or_upper_of_toLower h with heq | ⟨hupper, hcode⟩
    · exact heq
    · omega
  · rintro rfl
    exact hlower

theorem isHexMark_toLower (c : Char) :
    (c.toLower == 'x' || c.toLower == 'X') = (c == 'x' || c == 'X') :=
  toLower_elim (P := fun c d ↦ (d == 'x' || d == 'X') = (c == 'x' || c == 'X'))
    (fun _ ↦ rfl) (by decide) c

theorem moreDigits?_toLower (base acc : Nat) (cs : List Char) :
    moreDigits? base acc (cs.map Char.toLower) = moreDigits? base acc cs := by
  have hdigit : ∀ c : Char, baseDigit? base c.toLower = baseDigit? base c := by
    intro c
    rw [baseDigit?, hexValue?_toLower, baseDigit?]
  fun_induction moreDigits? base acc cs with
  | case1 acc => rfl
  | case2 acc c cs ih =>
      have hmark : ('_' : Char).toLower = '_' := rfl
      simp only [List.map_cons, hmark, moreDigits?, hdigit, ih]
  | case3 acc c cs hne ih =>
      have hne' : ∀ c' cs', c.toLower = '_' → cs.map Char.toLower = c' :: cs' → False := by
        intro c' cs' hc hcs
        obtain ⟨c'', cs'', rfl, -, -⟩ := List.map_eq_cons_iff.mp hcs
        exact hne c'' cs'' ((eq_mark_of_toLower (by simp)).mp hc) rfl
      rw [List.map_cons, moreDigits?]
      · simp only [hdigit, ih]
      · exact hne'

theorem digits?_toLower (base : Nat) (cs : List Char) :
    digits? base (cs.map Char.toLower) = digits? base cs := by
  cases cs with
  | nil => rfl
  | cons c cs =>
      simp only [List.map_cons, digits?, baseDigit?, hexValue?_toLower, moreDigits?_toLower]

theorem splitSign_toLower (cs : List Char) :
    splitSign (cs.map Char.toLower) = ((splitSign cs).1, (splitSign cs).2.map Char.toLower) := by
  cases cs with
  | nil => rfl
  | cons c cs =>
      by_cases hminus : c = '-'
      · subst hminus
        rfl
      · by_cases hplus : c = '+'
        · subst hplus
          rfl
        · have hminus' : c.toLower ≠ '-' := fun h ↦ hminus ((eq_mark_of_toLower (by simp)).mp h)
          have hplus' : c.toLower ≠ '+' := fun h ↦ hplus ((eq_mark_of_toLower (by simp)).mp h)
          simp [splitSign, hminus, hplus, hminus', hplus']

theorem dropHexMark_cons {x : Char} {cs : List Char} :
    dropHexMark ('0' :: x :: cs) = if x == 'x' || x == 'X' then
      (if cs.head? = some '_' then cs.tail else cs) else '0' :: x :: cs := by
  cases cs with
  | nil => rfl
  | cons y cs =>
      by_cases hy : y = '_'
      · subst hy
        simp [dropHexMark]
      · simp [dropHexMark, hy]

theorem dropHexMark_toLower (cs : List Char) :
    dropHexMark (cs.map Char.toLower) = (dropHexMark cs).map Char.toLower := by
  match cs with
  | [] => rfl
  | [c] => simp [dropHexMark]
  | c :: x :: cs =>
      by_cases hc : c = '0'
      · subst hc
        have hzero : ('0' : Char).toLower = '0' := rfl
        have hhead : (cs.map Char.toLower).head? = some '_' ↔ cs.head? = some '_' := by
          simp [List.head?_map, eq_mark_of_toLower]
        simp only [List.map_cons, hzero, dropHexMark_cons, isHexMark_toLower, hhead]
        split
        · split
          · exact List.map_tail.symm
          · rfl
        · rfl
      · have hc' : c.toLower ≠ '0' := fun h ↦ hc ((eq_mark_of_toLower (by simp)).mp h)
        simp [dropHexMark, hc, hc']

/-- A literal in base sixteen says the same in lower case. -/
theorem hexInteger?_toLower (cs : List Char) :
    hexInteger? (cs.map Char.toLower) = hexInteger? cs := by
  have hascii : (cs.map Char.toLower).map asciiForm = (cs.map asciiForm).map Char.toLower := by
    simp only [List.map_map]
    exact List.map_congr_left fun c _ ↦ asciiForm_toLower c
  simp only [hexInteger?, hascii, trimBoth_map isLiteralBlank_toLower, splitSign_toLower,
    dropHexMark_toLower, digits?_toLower]

/-! ## Characters of literals -/

/-- A character that a literal in base sixteen can be written with, in its ASCII form. -/
def isNumeral (c : Char) : Bool :=
  isLiteralBlank c || (hexValue? c).isSome || ['_', '-', '+', 'x', 'X'].contains c

theorem mem_dropWhile {p : Char → Bool} {cs : List Char} {c : Char} (hc : c ∈ cs) :
    p c = true ∨ c ∈ cs.dropWhile p := by
  rw [← List.takeWhile_append_dropWhile (p := p) (l := cs)] at hc
  exact (List.mem_append.mp hc).imp_left List.mem_takeWhile_imp

theorem mem_trimBoth {p : Char → Bool} {cs : List Char} {c : Char} (hc : c ∈ cs) :
    p c = true ∨ c ∈ trimBoth p cs := by
  obtain hp | hc := mem_dropWhile (p := p) hc
  · exact .inl hp
  · exact (mem_dropWhile (List.mem_reverse.mpr hc)).imp_right List.mem_reverse.mpr

theorem mem_splitSign {cs : List Char} {c : Char} (hc : c ∈ cs) :
    c = '-' ∨ c = '+' ∨ c ∈ (splitSign cs).2 := by
  unfold splitSign
  split
  · exact (List.mem_cons.mp hc).imp_right .inr
  · exact .inr (List.mem_cons.mp hc)
  · exact .inr (.inr hc)

theorem mem_dropHexMark {cs : List Char} {c : Char} (hc : c ∈ cs) :
    isNumeral c = true ∨ c ∈ dropHexMark cs := by
  have hmark : ∀ {x : Char}, (x == 'x' || x == 'X') = true → isNumeral x = true := by
    intro x hx
    obtain rfl | rfl : x = 'x' ∨ x = 'X' := by simpa using hx
    · rfl
    · rfl
  unfold dropHexMark
  split
  · split
    · rename_i hx
      simp only [List.mem_cons] at hc
      obtain rfl | rfl | rfl | hc := hc
      · exact .inl rfl
      · exact .inl (hmark hx)
      · exact .inl rfl
      · exact .inr hc
    · exact .inr hc
  · split
    · rename_i hx
      simp only [List.mem_cons] at hc
      obtain rfl | rfl | hc := hc
      · exact .inl rfl
      · exact .inl (hmark hx)
      · exact .inr hc
    · exact .inr hc
  · exact .inr hc

theorem isNumeral_of_baseDigit? {base d : Nat} {c : Char} (h : baseDigit? base c = some d) :
    isNumeral c = true := by
  have hvalue := (Option.filter_eq_some_iff.mp h).1
  simp [isNumeral, hvalue]

theorem isNumeral_of_moreDigits? {base acc n : Nat} {cs : List Char}
    (h : moreDigits? base acc cs = some n) : ∀ c ∈ cs, isNumeral c = true := by
  fun_induction moreDigits? base acc cs with
  | case1 acc => simp
  | case2 acc c cs ih =>
      obtain ⟨d, hd, hrest⟩ := Option.bind_eq_some_iff.mp h
      have hmark : isNumeral '_' = true := rfl
      simp only [List.forall_mem_cons]
      exact ⟨hmark, isNumeral_of_baseDigit? hd, ih d hrest⟩
  | case3 acc c cs _ ih =>
      obtain ⟨d, hd, hrest⟩ := Option.bind_eq_some_iff.mp h
      exact List.forall_mem_cons.mpr ⟨isNumeral_of_baseDigit? hd, ih d hrest⟩

theorem isNumeral_of_digits? {base n : Nat} {cs : List Char} (h : digits? base cs = some n) :
    ∀ c ∈ cs, isNumeral c = true := by
  cases cs with
  | nil => simp
  | cons c cs =>
      obtain ⟨d, hd, hrest⟩ := Option.bind_eq_some_iff.mp h
      exact List.forall_mem_cons.mpr ⟨isNumeral_of_baseDigit? hd, isNumeral_of_moreDigits? hrest⟩

theorem isNumeral_of_hexInteger? {cs : List Char} {n : Int} (h : hexInteger? cs = some n) :
    ∀ c ∈ cs, isNumeral (asciiForm c) = true := by
  intro c hc
  obtain ⟨m, hm, -⟩ := Option.map_eq_some_iff.mp h
  obtain hblank | hc := mem_trimBoth (p := isLiteralBlank) (List.mem_map_of_mem (f := asciiForm) hc)
  · simp [isNumeral, hblank]
  obtain hsign | hsign | hc := mem_splitSign hc
  · rw [hsign]; rfl
  · rw [hsign]; rfl
  obtain hnumeral | hc := mem_dropHexMark hc
  · exact hnumeral
  · exact isNumeral_of_digits? hm _ hc

/-! ## Folding of literals -/

/-- No character from `first` to `last` has another case. -/
def isUncased (first last : Nat) : Bool :=
  foldRuns.toList.all (fun r ↦ last.blt r.first || r.last.blt first) &&
    foldExpansions.toList.all fun e ↦ last.blt e.1 || e.1.blt first

theorem foldChar_of_isUncased {first last : Nat} (h : isUncased first last = true) {c : Char}
    (hascii : ¬c.toNat < 0x80) (hfirst : first ≤ c.toNat) (hlast : c.toNat ≤ last) :
    foldChar c = [c] := by
  obtain ⟨hruns, hexpansions⟩ := Bool.and_eq_true_iff.mp h
  have hexpansion : foldExpansions.find? (·.1 == c.toNat) = none := by
    apply Array.find?_eq_none.mpr
    intro e he hcode
    have hclear := List.all_eq_true.mp hexpansions e (Array.mem_toList_iff.mpr he)
    simp only [beq_iff_eq, Bool.or_eq_true, Nat.blt_eq] at hcode hclear
    omega
  have hrun : foldRuns.find? (·.covers c.toNat) = none := by
    apply Array.find?_eq_none.mpr
    intro r hr hcovers
    have hclear := List.all_eq_true.mp hruns r (Array.mem_toList_iff.mpr hr)
    simp only [CaseRun.covers, Bool.and_eq_true, decide_eq_true_eq] at hcovers
    simp only [Bool.or_eq_true, Nat.blt_eq] at hclear
    omega
  simp only [foldChar, if_neg hascii, hexpansion, CaseRun.apply, hrun]

/-- Stretches in which no character has another case; they hold every blank and every digit beyond
ASCII. -/
def uncasedStretches : List (Nat × Nat) :=
  [(0x80, 0xB4), (0x588, 0x109F), (0x13FE, 0x1C7F), (0x1FFD, 0x2125), (0x2CF3, 0xA63F),
    (0xA7F6, 0xAB6F), (0xABC0, 0xFAFF), (0xFB18, 0xFF20), (0x10428, 0x104AF), (0x10CB3, 0x1189F),
    (0x118C0, 0x16E3F), (0x16E60, 0x1E8FF), (0x1E922, 0x10FFFF)]

theorem isUncased_of_mem_stretches :
    uncasedStretches.all (fun e ↦ isUncased e.1 e.2) = true := by
  decide +kernel

theorem foldChar_of_mem_stretches {e : Nat × Nat} (he : e ∈ uncasedStretches) {c : Char}
    (hascii : ¬c.toNat < 0x80) (h : e.1 ≤ c.toNat ∧ c.toNat ≤ e.2) : foldChar c = [c] := by
  have huncased := List.all_eq_true.mp isUncased_of_mem_stretches e he
  exact foldChar_of_isUncased huncased hascii h.1 h.2

theorem foldChar_of_isBlank {c : Char} (h : isBlank c = true) (hascii : ¬c.toNat < 0x80) :
    foldChar c = [c] := by
  have hstretch : (0x80 ≤ c.toNat ∧ c.toNat ≤ 0xB4) ∨ (0x13FE ≤ c.toNat ∧ c.toNat ≤ 0x1C7F) ∨
      (0x1FFD ≤ c.toNat ∧ c.toNat ≤ 0x2125) ∨ (0x2CF3 ≤ c.toNat ∧ c.toNat ≤ 0xA63F) := by
    simp only [isBlank, Bool.or_eq_true, Bool.and_eq_true, decide_eq_true_eq, beq_iff_eq] at h
    omega
  obtain h | h | h | h := hstretch
  · exact foldChar_of_mem_stretches (e := (0x80, 0xB4)) (by decide) hascii h
  · exact foldChar_of_mem_stretches (e := (0x13FE, 0x1C7F)) (by decide) hascii h
  · exact foldChar_of_mem_stretches (e := (0x1FFD, 0x2125)) (by decide) hascii h
  · exact foldChar_of_mem_stretches (e := (0x2CF3, 0xA63F)) (by decide) hascii h

theorem digitZeros_lie_in_stretches : digitZeros.toList.all (fun z ↦
    uncasedStretches.any fun e ↦ e.1.ble z && (z + 9).ble e.2) = true := by
  decide +kernel

theorem foldChar_of_digitValue? {c : Char} {d : Nat} (h : digitValue? c = some d)
    (hascii : ¬c.toNat < 0x80) : foldChar c = [c] := by
  rw [digitValue?, if_neg hascii] at h
  obtain ⟨z, hz, -⟩ := Option.map_eq_some_iff.mp h
  have hmem := Array.mem_toList_iff.mpr (Array.mem_of_find?_eq_some hz)
  have hrange := Array.find?_some hz
  simp only [Bool.and_eq_true, decide_eq_true_eq] at hrange
  have hstretch := List.all_eq_true.mp digitZeros_lie_in_stretches z hmem
  simp only [List.any_eq_true, Bool.and_eq_true, Nat.ble_eq] at hstretch
  obtain ⟨e, he, hfirst, hlast⟩ := hstretch
  exact foldChar_of_mem_stretches he hascii ⟨by omega, by omega⟩

theorem lt_of_isNumeral {c : Char} (h : isNumeral c = true) : c.toNat < 0x80 := by
  simp only [isNumeral, Bool.or_eq_true] at h
  obtain (hblank | hvalue) | hmark := h
  · simp only [isLiteralBlank, Bool.or_eq_true, beq_iff_eq, Bool.and_eq_true,
      decide_eq_true_eq] at hblank
    obtain rfl | ⟨-, hle⟩ := hblank
    · decide
    · omega
  · by_contra hascii
    have hgreater : ∀ d : Char, d.toNat < 0x80 → ¬c ≤ d := fun d hd hle ↦
      hascii (Nat.lt_of_le_of_lt hle hd)
    simp [hexValue?, hgreater '9' (by decide), hgreater 'f' (by decide),
      hgreater 'F' (by decide)] at hvalue
  · simp only [List.contains_iff_mem, List.mem_cons, List.not_mem_nil, or_false] at hmark
    obtain rfl | rfl | rfl | rfl | rfl := hmark <;> decide

/-- Beyond ASCII, only blanks and digits have the ASCII form of a character of literals. -/
theorem foldChar_of_isNumeral {c : Char} (h : isNumeral (asciiForm c) = true) :
    foldChar c = [c.toLower] := by
  by_cases hascii : c.toNat < 0x80
  · rw [foldChar, if_pos hascii]
  · rw [toLower_of_not_ascii hascii]
    rw [asciiForm, if_neg hascii] at h
    split at h
    · rename_i hblank
      exact foldChar_of_isBlank hblank hascii
    · split at h
      · rename_i d hd
        exact foldChar_of_digitValue? hd hascii
      · exact absurd (lt_of_isNumeral h) hascii

end OrgService.Text
