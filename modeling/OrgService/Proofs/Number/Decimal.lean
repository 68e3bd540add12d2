import Mathlib.Tactic.SplitIfs
import OrgService.Number.Decimal
import OrgService.Proofs.Text.Literal

/-!
# Written decimals

The written form of a decimal says all there is to it: sign, coefficient and exponent, or the
payload of a NaN. Reading the form gives the decimal back if its exponent lies within bounds.
-/

namespace OrgService.Decimal

open Text

/-! ## Reading without bounds -/

/-- Splits off the digits after a point, if there is one. -/
def splitFraction : List Char → List Char × List Char
  | '.' :: tail => spanDigits tail
  | rest => ([], rest)

/-- A coefficient and an exponent as they are written. -/
def scanNumber? (cs : List Char) : Option (Nat × Int) :=
  let (whole, rest) := spanDigits cs
  let (fraction, rest) := splitFraction rest
  if whole.isEmpty && fraction.isEmpty then none
  else (exponent? rest).map fun e ↦ (ofDigits (whole ++ fraction), e - fraction.length)

def scanUnsigned? (negative : Bool) (cs : List Char) : Option Decimal :=
  let lower := cs.map Char.toLower
  if lower == "inf".toList || lower == "infinity".toList then some (.infinity negative)
  else if "nan".toList.isPrefixOf lower then payload? negative false (cs.drop 3)
  else if "snan".toList.isPrefixOf lower then payload? negative true (cs.drop 4)
  else (scanNumber? cs).map fun n ↦ .finite negative n.1 n.2

/-- A text without the blanks, the underscores and the scripts that reading ignores. -/
def normalized (cs : List Char) : List Char :=
  ((trimBoth isBlank cs).filter (· != '_')).map asciiDigit

def scan? (s : String) : Option Decimal :=
  let (negative, rest) := splitSign (normalized s.toList)
  scanUnsigned? negative rest

/-- Whether the exponent of a decimal lies within bounds. -/
def isRepresentable : Decimal → Bool
  | .finite _ coefficient exponent => inRange coefficient exponent
  | _ => true

theorem splitFraction_of_ne {rest : List Char} (h : ∀ tail, rest ≠ '.' :: tail) :
    splitFraction rest = ([], rest) := by
  unfold splitFraction
  split
  · exact absurd rfl (h _)
  · rfl

theorem number?_eq (negative : Bool) (cs : List Char) :
    number? negative cs =
      ((scanNumber? cs).map fun n ↦ finite negative n.1 n.2).filter isRepresentable := by
  have hchecked : ∀ whole fraction rest : List Char,
      (if whole.isEmpty && fraction.isEmpty then none
        else do
          let e ← exponent? rest
          if inRange (ofDigits (whole ++ fraction)) (e - fraction.length) then
            some (finite negative (ofDigits (whole ++ fraction)) (e - fraction.length))
          else none) =
        ((if whole.isEmpty && fraction.isEmpty then none
          else (exponent? rest).map fun e : Int ↦
            (ofDigits (whole ++ fraction), e - fraction.length)).map
          fun n ↦ finite negative n.1 n.2).filter isRepresentable := by
    intro whole fraction rest
    split
    · rfl
    · cases exponent? rest <;> rfl
  unfold number? scanNumber?
  dsimp only
  split
  · rename_i heq
    rw [heq]
    exact hchecked _ _ _
  · rename_i hpoint
    rw [splitFraction_of_ne hpoint]
    exact hchecked _ _ _

theorem payload?_filter (negative signaling : Bool) (cs : List Char) :
    (payload? negative signaling cs).filter isRepresentable = payload? negative signaling cs := by
  unfold payload?
  split <;> rfl

/-- Reading is scanning followed by a check of the exponent. -/
theorem parse?_eq (s : String) : parse? s = (scan? s).filter isRepresentable := by
  have hunsigned : ∀ negative cs,
      unsigned? negative cs = (scanUnsigned? negative cs).filter isRepresentable := by
    intro negative cs
    unfold unsigned? scanUnsigned?
    dsimp only
    split
    · rfl
    · split
      · rw [payload?_filter]
      · split
        · rw [payload?_filter]
        · exact number?_eq negative cs
  exact hunsigned _ _

/-! ## Reading the written form -/

theorem ofDigits_toDigits (n : Nat) : ofDigits (Nat.toDigits 10 n) = n :=
  Nat.ofDigitChars_ten_toDigits

theorem isDigit_of_mem_toDigits {n : Nat} {c : Char} (hc : c ∈ Nat.toDigits 10 n) :
    c.isDigit = true :=
  Nat.isDigit_of_mem_toDigits (by decide) (by decide) hc

theorem spanDigits_append {ds rest : List Char} (hds : ∀ c ∈ ds, c.isDigit = true)
    (hrest : ∀ c ∈ rest.head?, c.isDigit = false) : spanDigits (ds ++ rest) = (ds, rest) := by
  have hend : rest.takeWhile Char.isDigit = [] ∧ rest.dropWhile Char.isDigit = rest := by
    cases rest with
    | nil => exact ⟨rfl, rfl⟩
    | cons c rest => simp [hrest c rfl]
  rw [spanDigits, List.takeWhile_append_of_pos hds, List.dropWhile_append_of_pos hds, hend.1,
    hend.2, List.append_nil]

theorem scanNumber?_whole {whole rest : List Char} (hwhole : ∀ c ∈ whole, c.isDigit = true)
    (hne : whole ≠ []) (hrest : ∀ c ∈ rest.head?, c.isDigit = false ∧ c ≠ '.') :
    scanNumber? (whole ++ rest) = (exponent? rest).map fun e ↦ (ofDigits whole, e) := by
  have hspan := spanDigits_append hwhole fun c hc ↦ (hrest c hc).1
  have hpoint : ∀ tail, rest ≠ '.' :: tail := by
    rintro tail rfl
    exact (hrest '.' rfl).2 rfl
  simp [scanNumber?, hspan, splitFraction_of_ne hpoint, hne]

theorem scanNumber?_fraction {whole fraction rest : List Char}
    (hwhole : ∀ c ∈ whole, c.isDigit = true) (hne : whole ≠ [])
    (hfraction : ∀ c ∈ fraction, c.isDigit = true)
    (hrest : ∀ c ∈ rest.head?, c.isDigit = false) :
    scanNumber? (whole ++ '.' :: (fraction ++ rest)) =
      (exponent? rest).map fun e : Int ↦
        (ofDigits (whole ++ fraction), e - fraction.length) := by
  have hdot : ∀ c ∈ ('.' :: (fraction ++ rest)).head?, c.isDigit = false := by simp
  simp [scanNumber?, splitFraction, spanDigits_append hwhole hdot,
    spanDigits_append hfraction hrest, hne]

theorem exponent?_written (n : Int) :
    exponent? ('E' :: (if n < 0 then '-' else '+') :: Nat.toDigits 10 n.natAbs) = some n := by
  have hdigits : (Nat.toDigits 10 n.natAbs).all Char.isDigit = true :=
    List.all_eq_true.mpr fun c ↦ isDigit_of_mem_toDigits
  have hwritten : (('E' == 'e' || 'E' == 'E') && !(Nat.toDigits 10 n.natAbs).isEmpty &&
      (Nat.toDigits 10 n.natAbs).all Char.isDigit) = true := by
    simp [hdigits]
  by_cases hn : n < 0
  · simp only [exponent?, if_pos hn, splitSign, ofDigits_toDigits, hwritten, if_true]
    exact congrArg some (by omega)
  · simp only [exponent?, if_neg hn, splitSign, ofDigits_toDigits, hwritten, if_true,
      Bool.false_eq_true, if_false]
    exact congrArg some (by omega)

theorem ofDigits_replicate_zero_append (n : Nat) (ds : List Char) :
    ofDigits (List.replicate n '0' ++ ds) = ofDigits ds := by
  have hzeros : Nat.ofDigitChars 10 (List.replicate n '0') 0 = 10 ^ n * 0 :=
    Nat.ofDigitChars_replicate_zero
  have happend := Nat.ofDigitChars_append (b := 10) (l := List.replicate n '0') (m := ds) 0
  rw [hzeros, Nat.mul_zero] at happend
  exact happend

/-! ## The forms of a number -/

section

variable {ds : List Char} (hdigits : ∀ c ∈ ds, c.isDigit = true)

include hdigits

theorem scanNumber?_digits (hne : ds ≠ []) : scanNumber? ds = some (ofDigits ds, 0) := by
  have hscan := scanNumber?_whole (fun c hc ↦ hdigits c hc) hne
    (fun c (hc : c ∈ ([] : List Char).head?) ↦ nomatch hc)
  rw [List.append_nil] at hscan
  exact hscan

theorem scanNumber?_point {n : Nat} (hn : n < ds.length) :
    scanNumber? (ds.take (ds.length - n) ++ '.' :: ds.drop (ds.length - n)) =
      some (ofDigits ds, -(n : Int)) := by
  have hwhole : ∀ c ∈ ds.take (ds.length - n), c.isDigit = true :=
    fun c hc ↦ hdigits c (List.mem_of_mem_take hc)
  have hne : ds.take (ds.length - n) ≠ [] := by
    apply List.ne_nil_of_length_pos
    rw [List.length_take]
    omega
  have hfraction : ∀ c ∈ ds.drop (ds.length - n), c.isDigit = true :=
    fun c hc ↦ hdigits c (List.mem_of_mem_drop hc)
  have hscan := scanNumber?_fraction hwhole hne hfraction
    (fun c (hc : c ∈ ([] : List Char).head?) ↦ nomatch hc)
  have hlength : ((ds.drop (ds.length - n)).length : Int) = n := by
    rw [List.length_drop]
    omega
  rw [List.append_nil, List.take_append_drop, hlength] at hscan
  exact hscan.trans (by simp [exponent?])

theorem scanNumber?_zeros (n : Nat) :
    scanNumber? ('0' :: '.' :: (List.replicate n '0' ++ ds)) =
      some (ofDigits ds, -((n + ds.length : Nat) : Int)) := by
  have hzeros : ∀ c ∈ List.replicate n '0' ++ ds, c.isDigit = true := by
    intro c hc
    rcases List.mem_append.mp hc with hc | hc
    · rw [List.eq_of_mem_replicate hc]
      rfl
    · exact hdigits c hc
  have hzero : ∀ c ∈ ['0'], c.isDigit = true := by simp
  have hscan := scanNumber?_fraction hzero (by simp) hzeros
    (fun c (hc : c ∈ ([] : List Char).head?) ↦ nomatch hc)
  have hvalue := ofDigits_replicate_zero_append (n + 1) ds
  rw [List.replicate_succ, List.cons_append] at hvalue
  rw [List.append_nil, List.singleton_append, List.singleton_append, hvalue, List.length_append,
    List.length_replicate] at hscan
  exact hscan.trans (by simp [exponent?])

end

/-- The layout of a number is read as the number. -/
theorem scanNumber?_layOut (coefficient : Nat) (exponent : Int) :
    scanNumber? (layOut coefficient exponent) = some (coefficient, exponent) := by
  have hdigits : ∀ c ∈ Nat.toDigits 10 coefficient, c.isDigit = true :=
    fun c ↦ isDigit_of_mem_toDigits
  have hne : Nat.toDigits 10 coefficient ≠ [] := Nat.toDigits_ne_nil
  have hvalue := ofDigits_toDigits coefficient
  have hlead : adjusted coefficient exponent =
      exponent + (Nat.toDigits 10 coefficient).length - 1 := rfl
  unfold layOut
  dsimp only
  generalize Nat.toDigits 10 coefficient = ds at *
  generalize adjusted coefficient exponent = lead at *
  subst hvalue
  have hexponent := exponent?_written lead
  have hrest : ∀ c ∈ ('E' :: (if lead < 0 then '-' else '+') ::
      Nat.toDigits 10 lead.natAbs).head?, c.isDigit = false ∧ c ≠ '.' := by
    simp
  generalize 'E' :: (if lead < 0 then '-' else '+') :: Nat.toDigits 10 lead.natAbs = rest at *
  have hexact : ∀ {e : Int}, e = exponent → some (ofDigits ds, e) = some (ofDigits ds, exponent) :=
    fun h ↦ by rw [h]
  split_ifs with hpositional hzero hfraction
  · rw [scanNumber?_digits hdigits hne, hzero]
  · exact (scanNumber?_point hdigits hfraction).trans (hexact (by omega))
  · exact (scanNumber?_zeros hdigits _).trans (hexact (by omega))
  · -- Scientific notation: a point follows the first digit unless there is no other.
    rcases ds with _ | ⟨c, _ | ⟨d, cs⟩⟩
    · exact absurd rfl hne
    · refine (scanNumber?_whole hdigits hne hrest).trans ?_
      rw [hexponent]
      simp at hlead ⊢
      omega
    · obtain ⟨hc, hcs⟩ := List.forall_mem_cons.mp hdigits
      have hfirst : ∀ x ∈ [c], x.isDigit = true := by simpa using hc
      refine (scanNumber?_fraction hfirst (by simp) hcs fun c hc ↦ (hrest c hc).1).trans ?_
      rw [hexponent]
      simp at hlead ⊢
      omega

/-! ## Written characters -/

/-- The characters that decimals are written with. -/
def IsWritten (c : Char) : Prop := c.isDigit = true ∨ c ∈ "+-.EsNaInfity".toList

instance : DecidablePred IsWritten := fun _ ↦ inferInstanceAs (Decidable (_ ∨ _))

theorem IsWritten.isBlank {c : Char} (hc : IsWritten c) : Text.isBlank c = false := by
  rcases hc with hc | hc
  · have hrange := Char.isDigit_iff_toNat.mp hc
    simp [Text.isBlank]
    simp at hrange
    omega
  · exact forall_mem_of_all (P := fun c ↦ Text.isBlank c = false) (by decide) c hc

theorem IsWritten.ne_underscore {c : Char} (hc : IsWritten c) : c ≠ '_' := by
  rintro rfl
  revert hc
  simp [IsWritten]

theorem IsWritten.asciiDigit {c : Char} (hc : IsWritten c) : asciiDigit c = c := by
  rcases hc with hc | hc
  · have hrange := Char.isDigit_iff_toNat.mp hc
    simp at hrange
    have hascii : c.toNat < 0x80 := by omega
    have hvalue : 0x30 + (c.toNat - 0x30) = c.toNat := by omega
    simp only [Decimal.asciiDigit, Text.digitValue?, if_pos hascii, if_pos hc, hvalue,
      Char.ofNat_toNat]
  · exact forall_mem_of_all (P := fun c ↦ Decimal.asciiDigit c = c) (by decide) c hc

theorem normalized_of_written {cs : List Char} (h : ∀ c ∈ cs, IsWritten c) :
    normalized cs = cs := by
  have hkept : cs.filter (· != '_') = cs :=
    List.filter_eq_self.mpr fun c hc ↦ bne_iff_ne.mpr (h c hc).ne_underscore
  rw [normalized, trimBoth_of_forall fun c hc ↦ (h c hc).isBlank, hkept,
    map_of_forall fun c hc ↦ (h c hc).asciiDigit]

theorem isWritten_of_mem_toDigits {n : Nat} : ∀ c ∈ Nat.toDigits 10 n, IsWritten c :=
  fun _ hc ↦ .inl (isDigit_of_mem_toDigits hc)

theorem forall_isWritten_layOut (coefficient : Nat) (exponent : Int) :
    ∀ c ∈ layOut coefficient exponent, IsWritten c := by
  have hdigits := isWritten_of_mem_toDigits (n := coefficient)
  unfold layOut
  dsimp only
  generalize Nat.toDigits 10 coefficient = ds at *
  split_ifs
  · exact hdigits
  · simp only [List.forall_mem_append, List.forall_mem_cons]
    exact ⟨fun c hc ↦ hdigits c (List.mem_of_mem_take hc), by decide,
      fun c hc ↦ hdigits c (List.mem_of_mem_drop hc)⟩
  · simp only [List.cons_append, List.forall_mem_append, List.forall_mem_cons]
    refine ⟨by decide, by decide, fun c hc ↦ ?_, hdigits⟩
    rw [List.eq_of_mem_replicate hc]
    decide
  all_goals
    simp only [List.forall_mem_append, List.forall_mem_cons]
    refine ⟨?_, by decide, by decide, isWritten_of_mem_toDigits⟩
    match ds, hdigits with
    | [], hdigits => exact hdigits
    | [_], hdigits => exact hdigits
    | c :: d :: cs, hdigits =>
        obtain ⟨hc, hcs⟩ := List.forall_mem_cons.mp hdigits
        exact List.forall_mem_cons.mpr ⟨hc, List.forall_mem_cons.mpr ⟨by decide, hcs⟩⟩

theorem exists_layOut_eq_cons (coefficient : Nat) (exponent : Int) :
    ∃ c cs, layOut coefficient exponent = c :: cs ∧ c.isDigit = true := by
  obtain ⟨c, cs, hds⟩ : ∃ c cs, Nat.toDigits 10 coefficient = c :: cs :=
    List.exists_cons_of_ne_nil Nat.toDigits_ne_nil
  have hc : c.isDigit = true := isDigit_of_mem_toDigits (n := coefficient) (by simp [hds])
  unfold layOut
  simp only [hds]
  split_ifs
  · exact ⟨c, cs, rfl, hc⟩
  · obtain ⟨n, hn⟩ : ∃ n, (c :: cs).length - (-exponent).toNat = n + 1 :=
      Nat.exists_eq_add_one.mpr (by omega)
    rw [hn]
    exact ⟨c, _, rfl, hc⟩
  · exact ⟨'0', _, rfl, rfl⟩
  all_goals cases cs <;> exact ⟨c, _, rfl, hc⟩

theorem forall_isWritten_toString (d : Decimal) : ∀ c ∈ d.toString.toList, IsWritten c := by
  have hsign : ∀ negative : Bool, ∀ c ∈ (if negative then ['-'] else []), IsWritten c := by
    intro negative
    cases negative <;> exact forall_mem_of_all (by decide)
  cases d with
  | finite negative coefficient exponent =>
      simp only [toString, String.toList_ofList, List.forall_mem_append]
      exact ⟨hsign negative, forall_isWritten_layOut coefficient exponent⟩
  | infinity negative =>
      simp only [toString, String.toList_ofList, List.forall_mem_append]
      exact ⟨hsign negative, forall_mem_of_all (by decide)⟩
  | nan negative signaling payload =>
      simp only [toString, String.toList_ofList, List.forall_mem_append]
      refine ⟨⟨⟨hsign negative, ?_⟩, forall_mem_of_all (by decide)⟩, ?_⟩
      · cases signaling <;> exact forall_mem_of_all (by decide)
      · split
        · simp
        · exact isWritten_of_mem_toDigits

/-! ## The round trip -/

theorem splitSign_signed (negative : Bool) {cs : List Char}
    (hcs : ∀ c ∈ cs.head?, c ≠ '-' ∧ c ≠ '+') :
    splitSign ((if negative then ['-'] else []) ++ cs) = (negative, cs) := by
  cases negative with
  | true => rfl
  | false =>
      simp only [Bool.false_eq_true, if_false, List.nil_append]
      unfold splitSign
      split <;> simp_all

theorem toLower_of_isDigit {c : Char} (hc : c.isDigit = true) : c.toLower = c := by
  have hrange := Char.isDigit_iff_toNat.mp hc
  simp at hrange
  have hsmall : ¬(65 ≤ c.toNat) := by omega
  unfold Char.toLower
  rw [dif_neg]
  exact fun h ↦ hsmall h.1

theorem scanUnsigned?_layOut (negative : Bool) (coefficient : Nat) (exponent : Int) :
    scanUnsigned? negative (layOut coefficient exponent) =
      some (.finite negative coefficient exponent) := by
  have hscan := scanNumber?_layOut coefficient exponent
  obtain ⟨c, cs, hlayOut, hc⟩ := exists_layOut_eq_cons coefficient exponent
  have hword : c ≠ 'i' ∧ 'n' ≠ c ∧ 's' ≠ c := by
    refine ⟨?_, ?_, ?_⟩ <;> rintro rfl <;> simp at hc
  rw [hlayOut] at hscan ⊢
  simp [scanUnsigned?, hscan, List.isPrefixOf, toLower_of_isDigit hc, hword]

theorem payload?_written (negative signaling : Bool) (payload : Nat) :
    payload? negative signaling (if payload = 0 then [] else Nat.toDigits 10 payload) =
      some (.nan negative signaling payload) := by
  have hdigits : (Nat.toDigits 10 payload).all Char.isDigit = true :=
    List.all_eq_true.mpr fun c ↦ isDigit_of_mem_toDigits
  split
  · rename_i hzero
    rw [hzero]
    rfl
  · rw [payload?, if_pos hdigits, ofDigits_toDigits]

theorem scanUnsigned?_nan (negative signaling : Bool) (payload : Nat) :
    scanUnsigned? negative ((if signaling then ['s'] else []) ++ "NaN".toList ++
      (if payload = 0 then [] else Nat.toDigits 10 payload)) =
      some (.nan negative signaling payload) := by
  have hread := payload?_written negative signaling payload
  generalize (if payload = 0 then [] else Nat.toDigits 10 payload) = cs at *
  cases signaling with
  | true => simpa [scanUnsigned?, List.isPrefixOf] using hread
  | false => simpa [scanUnsigned?, List.isPrefixOf] using hread

/-- Every decimal is read from its written form, if bounds do not count. -/
theorem scan?_toString (d : Decimal) : scan? d.toString = some d := by
  rw [scan?, normalized_of_written d.forall_isWritten_toString]
  cases d with
  | finite negative coefficient exponent =>
      have hsign : ∀ c ∈ (layOut coefficient exponent).head?, c ≠ '-' ∧ c ≠ '+' := by
        obtain ⟨c, cs, hlayOut, hc⟩ := exists_layOut_eq_cons coefficient exponent
        rw [hlayOut]
        rintro _ ⟨⟩
        constructor <;> rintro rfl <;> simp at hc
      simp only [toString, String.toList_ofList, splitSign_signed negative hsign]
      exact scanUnsigned?_layOut negative coefficient exponent
  | infinity negative => cases negative <;> rfl
  | nan negative signaling payload =>
      have hsign : ∀ c ∈ ((if signaling then ['s'] else []) ++ "NaN".toList ++
          (if payload = 0 then [] else Nat.toDigits 10 payload)).head?, c ≠ '-' ∧ c ≠ '+' := by
        cases signaling <;> simp
      have hsplit := splitSign_signed negative hsign
      rw [← List.append_assoc, ← List.append_assoc] at hsplit
      simp only [toString, String.toList_ofList, hsplit]
      exact scanUnsigned?_nan negative signaling payload

theorem toString_injective {d e : Decimal} (heq : d.toString = e.toString) : d = e := by
  have hscan := scan?_toString d
  rw [heq, scan?_toString] at hscan
  exact (Option.some.inj hscan).symm

/-- What was read once is read again from its written form. -/
theorem parse?_toString_of_parse? {s : String} {d : Decimal} (h : parse? s = some d) :
    parse? d.toString = some d := by
  rw [parse?_eq] at h ⊢
  rw [scan?_toString, Option.filter_some, if_pos (Option.filter_eq_some_iff.mp h).2]

end OrgService.Decimal
