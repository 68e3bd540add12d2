import OrgService.Guid
import OrgService.Proofs.Text.Folding

/-!
# Identifiers in folded text

A text that spells an identifier spells the same one after case folding: the words and braces
around the digits stand in lower case anyway, and folding adds none.
-/

namespace OrgService.Guid

open Text

/-! ## Removing words -/

theorem removeAll_append {word : List Char} (hne : word ≠ []) (rest : List Char) :
    removeAll word (word ++ rest) = removeAll word rest := by
  obtain ⟨c, cs, rfl⟩ := List.exists_cons_of_ne_nil hne
  have hbegins : (c :: cs).isPrefixOf (c :: (cs ++ rest)) = true :=
    List.isPrefixOf_iff_prefix.mpr (List.prefix_append (c :: cs) rest)
  have hdrop : (c :: (cs ++ rest)).drop (max 1 (c :: cs).length) = rest := by
    simp
  rw [List.cons_append, removeAll, if_pos hbegins, hdrop]

theorem removeAll_cons {word : List Char} {c : Char} {cs : List Char} (h : ¬word <+: c :: cs) :
    removeAll word (c :: cs) = c :: removeAll word cs := by
  rw [removeAll, if_neg (mt List.isPrefixOf_iff_prefix.mp h)]

/-- A text is empty, begins with the word, or begins with a character that is kept. -/
theorem removal_induction {word : List Char} (hne : word ≠ []) {motive : List Char → Prop}
    (nil : motive []) (append : ∀ rest, motive rest → motive (word ++ rest))
    (cons : ∀ c cs, ¬word <+: c :: cs → motive cs → motive (c :: cs)) (cs : List Char) :
    motive cs := by
  induction hlength : cs.length using Nat.strongRecOn generalizing cs with
  | ind n ih =>
      by_cases hbegins : word <+: cs
      · obtain ⟨rest, rfl⟩ := hbegins
        have hpos := List.length_pos_iff.mpr hne
        rw [List.length_append] at hlength
        exact append rest (ih rest.length (by omega) rest rfl)
      · cases cs with
        | nil => exact nil
        | cons c cs =>
            rw [List.length_cons] at hlength
            exact cons c cs hbegins (ih cs.length (by omega) cs rfl)

theorem mem_removeAll {word cs : List Char} (hne : word ≠ []) {c : Char} (hc : c ∈ cs) :
    c ∈ word ∨ c ∈ removeAll word cs := by
  induction cs using removal_induction hne with
  | nil => simp at hc
  | append rest ih =>
      rw [removeAll_append hne]
      obtain hc | hc := List.mem_append.mp hc
      · exact .inl hc
      · exact ih hc
  | cons d cs hkept ih =>
      rw [removeAll_cons hkept]
      obtain rfl | hc := List.mem_cons.mp hc
      · exact .inr List.mem_cons_self
      · exact (ih hc).imp_right (List.mem_cons_of_mem d)

/-- Removing a word commutes with a mapping that fixes the word, if the mapping does not make up
the word where there is none. -/
theorem removeAll_map {f : Char → Char} {word cs : List Char} (hne : word ≠ [])
    (hword : word.map f = word)
    (hmap : ∀ c rest, c :: rest <:+ cs → c ∈ removeAll word cs →
      word <+: (c :: rest).map f → word <+: c :: rest) :
    removeAll word (cs.map f) = (removeAll word cs).map f := by
  induction cs using removal_induction hne with
  | nil => rw [List.map_nil, removeAll, List.map_nil]
  | append rest ih =>
      rw [List.map_append, hword, removeAll_append hne, removeAll_append hne]
      apply ih
      intro c rest' hsuffix hc
      rw [removeAll_append hne] at hmap
      exact hmap c rest' (hsuffix.trans (List.suffix_append word rest)) hc
  | cons c cs hkept ih =>
      rw [removeAll_cons hkept] at hmap ⊢
      have hkept' : ¬word <+: (c :: cs).map f := fun h ↦
        hkept (hmap c cs List.suffix_rfl List.mem_cons_self h)
      rw [List.map_cons, removeAll_cons hkept', List.map_cons, ih]
      intro d rest hsuffix hd
      exact hmap d rest (hsuffix.trans (List.suffix_cons c cs)) (List.mem_cons_of_mem c hd)

theorem prefix_of_prefix_map {f : Char → Char} {word cs : List Char}
    (h : ∀ c ∈ cs, ∀ d ∈ word, f c = d → c = d) (hbegins : word <+: cs.map f) : word <+: cs := by
  induction word generalizing cs with
  | nil => exact List.nil_prefix
  | cons d word ih =>
      cases cs with
      | nil => simp at hbegins
      | cons c cs =>
          obtain ⟨hc, hrest⟩ := List.cons_prefix_cons.mp hbegins
          have hcd : c = d := h c List.mem_cons_self d List.mem_cons_self hc.symm
          refine List.cons_prefix_cons.mpr ⟨hcd.symm, ih ?_ hrest⟩
          intro c' hc' d' hd'
          exact h c' (List.mem_cons_of_mem c hc') d' (List.mem_cons_of_mem d hd')

/-! ## Characters of written identifiers -/

/-- Characters that remain beside the words: braces, dashes and those of literals. -/
def isBare (c : Char) : Bool :=
  c == '\x7b' || c == '\x7d' || c == '-' || isNumeral (asciiForm c)

def isWritten (c : Char) : Bool := ['u', 'r', 'n', 'i', 'd', ':'].contains c || isBare c

/-- No letter of the words is written in upper case. -/
theorem eq_of_toLower_of_isWritten {c d : Char} (hc : isWritten c = true)
    (hd : d ∈ ['u', 'r', 'n', ':']) (h : c.toLower = d) : c = d := by
  have hletters : ∀ d ∈ ['u', 'r', 'n', ':'],
      d.toNat < 97 ∨ isWritten (Char.ofNat (d.toNat - 32)) = false :=
    forall_mem_of_all (by decide)
  rcases eq_or_upper_of_toLower h with heq | ⟨hupper, hcode⟩
  · exact heq
  · rcases hletters d hd with hmark | hother
    · omega
    · rw [hcode, Nat.add_sub_cancel, Char.ofNat_toNat, hc] at hother
      exact nomatch hother

theorem toLower_ne_of_isBare {c : Char} (h : isBare c = true) : c.toLower ≠ 'u' := by
  intro hlower
  have hwritten : isWritten c = true := by simp [isWritten, h]
  obtain rfl := eq_of_toLower_of_isWritten hwritten (by simp) hlower
  contradiction

theorem foldChar_of_isWritten {c : Char} (h : isWritten c = true) : foldChar c = [c.toLower] := by
  by_cases hascii : c.toNat < 0x80
  · rw [foldChar, if_pos hascii]
  · apply foldChar_of_isNumeral
    simp only [isWritten, isBare, Bool.or_eq_true, List.contains_iff_mem, beq_iff_eq] at h
    obtain hword | ((rfl | rfl) | rfl) | hnumeral := h
    · have hwords : ∀ d ∈ ['u', 'r', 'n', 'i', 'd', ':'], d.toNat < 0x80 :=
        forall_mem_of_all (by decide)
      exact absurd (hwords c hword) hascii
    · exact absurd (by decide) hascii
    · exact absurd (by decide) hascii
    · exact absurd (by decide) hascii
    · exact hnumeral

/-- What is left of a text when the words are taken out. -/
def withoutWords (s : String) : List Char :=
  removeAll "uuid:".toList (removeAll "urn:".toList s.toList)

theorem undecorated_eq (s : String) : undecorated s =
    (trimBoth (fun c ↦ c == '\x7b' || c == '\x7d') (withoutWords s)).filter (· != '-') := rfl

theorem isBare_of_hexInteger? {s : String} {n : Int} (h : hexInteger? (undecorated s) = some n) :
    ∀ c ∈ withoutWords s, isBare c = true := by
  intro c hc
  have hbrace := mem_trimBoth (p := fun c ↦ c == '\x7b' || c == '\x7d') hc
  obtain hbrace | hc := hbrace
  · simp [isBare, hbrace]
  · by_cases hdash : c = '-'
    · simp [isBare, hdash]
    · have hkept : c ∈ undecorated s := by
        rw [undecorated_eq]
        exact List.mem_filter.mpr ⟨hc, bne_iff_ne.mpr hdash⟩
      simp [isBare, isNumeral_of_hexInteger? h c hkept]

theorem isWritten_of_hexInteger? {s : String} {n : Int}
    (h : hexInteger? (undecorated s) = some n) : ∀ c ∈ s.toList, isWritten c = true := by
  intro c hc
  have hurn : ∀ d ∈ "urn:".toList, isWritten d = true := forall_mem_of_all (by decide)
  have huuid : ∀ d ∈ "uuid:".toList, isWritten d = true := forall_mem_of_all (by decide)
  have hurnNe : "urn:".toList ≠ [] := by decide
  have huuidNe : "uuid:".toList ≠ [] := by decide
  obtain hc | hc := mem_removeAll hurnNe hc
  · exact hurn c hc
  obtain hc | hc := mem_removeAll huuidNe hc
  · exact huuid c hc
  · simp [isWritten, isBare_of_hexInteger? h c hc]

/-! ## Folding -/

theorem toList_caseFold {s : String} (h : ∀ c ∈ s.toList, isWritten c = true) :
    (caseFold s).toList = s.toList.map Char.toLower := by
  have hchars : ∀ cs : List Char, (∀ c ∈ cs, isWritten c = true) →
      cs.flatMap foldChar = cs.map Char.toLower := by
    intro cs hcs
    induction cs with
    | nil => rfl
    | cons c cs ih =>
        obtain ⟨hc, hcs⟩ := List.forall_mem_cons.mp hcs
        rw [List.flatMap_cons, foldChar_of_isWritten hc, ih hcs]
        rfl
  rw [caseFold, String.toList_ofList, hchars _ h]

theorem withoutWords_caseFold {s : String} {n : Int}
    (h : hexInteger? (undecorated s) = some n) :
    withoutWords (caseFold s) = (withoutWords s).map Char.toLower := by
  have hwritten := isWritten_of_hexInteger? h
  have hurn : removeAll "urn:".toList (s.toList.map Char.toLower) =
      (removeAll "urn:".toList s.toList).map Char.toLower := by
    refine removeAll_map (by decide) (by decide) fun c rest hsuffix _ hbegins ↦ ?_
    refine prefix_of_prefix_map (fun d hd e he heq ↦ ?_) hbegins
    exact eq_of_toLower_of_isWritten (hwritten d (hsuffix.subset hd)) he heq
  have huuid : removeAll "uuid:".toList ((removeAll "urn:".toList s.toList).map Char.toLower) =
      (withoutWords s).map Char.toLower := by
    refine removeAll_map (by decide) (by decide) fun c rest _ hkept hbegins ↦ ?_
    -- The word begins with a letter that is nowhere kept, not even in upper case.
    have hfirst : 'u' = c.toLower := (List.cons_prefix_cons.mp hbegins).1
    exact absurd hfirst.symm (toLower_ne_of_isBare (isBare_of_hexInteger? h c hkept))
  rw [withoutWords, toList_caseFold hwritten, hurn, huuid]

theorem undecorated_caseFold {s : String} {n : Int} (h : hexInteger? (undecorated s) = some n) :
    undecorated (caseFold s) = (undecorated s).map Char.toLower := by
  have hbrace : ∀ c : Char, (c.toLower == '\x7b' || c.toLower == '\x7d') =
      (c == '\x7b' || c == '\x7d') :=
    toLower_elim (P := fun c d ↦ (d == '\x7b' || d == '\x7d') = (c == '\x7b' || c == '\x7d'))
      (fun _ ↦ rfl) (by decide)
  have hdash : (fun c : Char ↦ c != '-') ∘ Char.toLower = fun c ↦ c != '-' :=
    funext (toLower_elim (P := fun c d ↦ (d != '-') = (c != '-')) (fun _ ↦ rfl) (by decide))
  rw [undecorated_eq, withoutWords_caseFold h, trimBoth_map hbrace, List.filter_map, hdash,
    undecorated_eq]

/-- A text that spells an identifier spells the same one after case folding. -/
theorem parse?_caseFold {s : String} {g : Guid} (h : parse? s = some g) :
    parse? (caseFold s) = some g := by
  unfold parse? parse at h ⊢
  dsimp only at h ⊢
  split at h
  · contradiction
  · rename_i hlength
    cases hread : hexInteger? (undecorated s) with
    | none =>
        rw [hread] at h
        contradiction
    | some n =>
        rw [undecorated_caseFold hread, List.length_map, if_neg hlength, hexInteger?_toLower, hread]
        rwa [hread] at h

end OrgService.Guid
