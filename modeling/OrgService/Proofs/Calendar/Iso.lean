import OrgService.Calendar.Iso
import OrgService.Proofs.Text.Literal

/-!
# Written dates and timestamps

The written form of a date is read as the date, and so is that of a timestamp unless its offset
is a fraction of a second only, which reading drops. The form still tells such offsets apart: no
two timestamps are written alike.
-/

namespace OrgService

namespace Iso

/-! ## Digits -/

theorem isDigit_ofNat : ∀ n < 10, (Char.ofNat (0x30 + n)).isDigit = true := by decide

theorem toNat_ofNat_digit : ∀ n < 10, (Char.ofNat (0x30 + n)).toNat - 0x30 = n := by decide

theorem isDigit_of_mem_twoDigits {n : Nat} : ∀ c ∈ twoDigits n, c.isDigit = true := by
  have hdigit : ∀ m, (Char.ofNat (0x30 + m % 10)).isDigit = true :=
    fun m ↦ isDigit_ofNat _ (Nat.mod_lt _ (by decide))
  simp [twoDigits, hdigit]

/-- What is written in digits begins with none of the marks of a date or time. -/
theorem peek_twoDigits_beq {c : Char} (hc : c.isDigit = false) (n : Nat) (rest : List Char) :
    (peek (twoDigits n ++ rest) == c) = false := by
  have hdigit : (peek (twoDigits n ++ rest)).isDigit = true :=
    isDigit_ofNat _ (Nat.mod_lt _ (by decide))
  rw [beq_eq_false_iff_ne]
  rintro rfl
  simp [hdigit] at hc

theorem readDigits?_add (acc m n : Nat) (cs : List Char) :
    readDigits? acc (m + n) cs =
      (readDigits? acc m cs).bind fun p ↦ readDigits? p.1 n p.2 := by
  induction m generalizing acc cs with
  | zero => simp [readDigits?]
  | succ m ih =>
      rw [Nat.succ_add]
      cases cs with
      | nil => rfl
      | cons c cs =>
          simp only [readDigits?]
          split
          · exact ih _ _
          · rfl

theorem readDigits?_twoDigits (acc n : Nat) (rest : List Char) :
    readDigits? acc 2 (twoDigits n ++ rest) = some (acc * 100 + n % 100, rest) := by
  have hhigh : n / 10 % 10 < 10 := Nat.mod_lt _ (by decide)
  have hlow : n % 10 < 10 := Nat.mod_lt _ (by decide)
  simp only [twoDigits, List.cons_append, List.nil_append, readDigits?, isDigit_ofNat _ hhigh,
    isDigit_ofNat _ hlow, toNat_ofNat_digit _ hhigh, toNat_ofNat_digit _ hlow, if_true]
  congr 2
  omega

theorem readDigits?_fourDigits (acc n : Nat) (rest : List Char) :
    readDigits? acc 4 (fourDigits n ++ rest) = some (acc * 10000 + n % 10000, rest) := by
  rw [fourDigits, List.append_assoc, readDigits?_add acc 2 2, readDigits?_twoDigits,
    Option.bind_some, readDigits?_twoDigits]
  congr 2
  omega

theorem readDigits?_sixDigits (acc n : Nat) (rest : List Char) :
    readDigits? acc 6 (sixDigits n ++ rest) = some (acc * 1000000 + n % 1000000, rest) := by
  rw [sixDigits, List.append_assoc, List.append_assoc, readDigits?_add acc 2 4,
    readDigits?_twoDigits, Option.bind_some, readDigits?_add _ 2 2, readDigits?_twoDigits,
    Option.bind_some, readDigits?_twoDigits]
  congr 2
  omega

/-! ## Times of day -/

/-- A time of day as it is written; a fraction only if there is one. -/
def clockText (hour minute second micro : Nat) : List Char :=
  twoDigits hour ++ ':' :: (twoDigits minute ++ ':' :: (twoDigits second ++
    (if micro = 0 then [] else '.' :: sixDigits micro)))

theorem readParts?_colon {colons : Option Bool} (hcolons : colons.getD true = true)
    (after : Char) (parts : List Nat) (n v : Nat) {rest : List Char} (hrest : rest ≠ []) :
    readParts? after colons parts (n + 1) (twoDigits v ++ ':' :: rest) =
      readParts? after (some true) (parts ++ [v % 100]) n rest := by
  have hmore : ¬(':' :: rest).length ≤ 1 := by
    simpa using hrest
  simp only [readParts?, readDigits?_twoDigits, bind, Option.bind_some, List.headD_cons,
    beq_self_eq_true, hcolons, if_neg hmore, Bool.and_self, if_true, List.tail_cons,
    Nat.zero_mul, Nat.zero_add]

theorem readParts?_last (after : Char) (colons : Option Bool) (parts : List Nat) (n v : Nat) :
    readParts? after colons parts (n + 1) (twoDigits v) =
      some ⟨parts ++ [v % 100], 0, after != '\x00'⟩ := by
  have hread := readDigits?_twoDigits 0 v []
  rw [List.append_nil, Nat.zero_mul, Nat.zero_add] at hread
  simp [readParts?, hread]

theorem readParts?_fraction (after : Char) (parts : List Nat) (n v micro : Nat) :
    readParts? after (some true) parts (n + 1) (twoDigits v ++ '.' :: sixDigits micro) =
      some ⟨parts ++ [v % 100], micro % 1000000, after != '\x00'⟩ := by
  have hread := readDigits?_sixDigits 0 micro []
  rw [List.append_nil, Nat.zero_mul, Nat.zero_add] at hread
  have hlength : (sixDigits micro).length = 6 := rfl
  simp [readParts?, readDigits?_twoDigits, readFraction?, hread, hlength]

theorem readTime?_clockText {hour minute second micro : Nat}
    (hvalid : hour < 100 ∧ minute < 100 ∧ second < 100 ∧ micro < 1000000) (after : Char) :
    readTime? (clockText hour minute second micro) after =
      some ⟨[hour, minute, second], micro, after != '\x00'⟩ := by
  obtain ⟨hhour, hminute, hsecond, hmicro⟩ := hvalid
  rw [readTime?, clockText, readParts?_colon rfl _ _ _ _ (by simp [twoDigits]),
    readParts?_colon rfl _ _ _ _ (by simp [twoDigits])]
  simp only [List.nil_append, List.cons_append, Nat.mod_eq_of_lt, hhour, hminute]
  split
  · rename_i hzero
    rw [List.append_nil, readParts?_last, hzero, Nat.mod_eq_of_lt hsecond]
    rfl
  · rw [readParts?_fraction, Nat.mod_eq_of_lt hsecond, Nat.mod_eq_of_lt hmicro]
    rfl

/-! ## Characters -/

/-- The characters that dates and timestamps are written with. -/
def IsWritten (c : Char) : Prop := c.isDigit = true ∨ c ∈ "-T:.+".toList

instance : DecidablePred IsWritten := fun _ ↦ inferInstanceAs (Decidable (_ ∨ _))

theorem IsWritten.utf8Size {c : Char} (hc : IsWritten c) : c.utf8Size = 1 := by
  rcases hc with hc | hc
  · have hrange := (Char.isDigit_iff_toNat.mp hc).2
    rw [Char.utf8Size_eq_one_iff, UInt32.le_iff_toNat_le]
    exact Nat.le_trans hrange (by decide)
  · exact Text.forall_mem_of_all (P := fun c ↦ c.utf8Size = 1) (by decide) c hc

theorem byteUnits_of_written {s : String} (h : ∀ c ∈ s.toList, IsWritten c) :
    byteUnits s = s.toList := by
  have hone : ∀ cs : List Char, (∀ c ∈ cs, IsWritten c) →
      cs.flatMap (fun c ↦ c :: List.replicate (c.utf8Size - 1) '\x80') = cs := by
    intro cs hcs
    induction cs with
    | nil => rfl
    | cons c cs ih =>
        obtain ⟨hc, hcs⟩ := List.forall_mem_cons.mp hcs
        rw [List.flatMap_cons, ih hcs, hc.utf8Size]
        rfl
  exact hone _ h

theorem isWritten_of_mem_twoDigits {n : Nat} : ∀ c ∈ twoDigits n, IsWritten c :=
  fun c hc ↦ .inl (isDigit_of_mem_twoDigits c hc)

/-- Times of day are written with digits, colons and a point. -/
theorem forall_mem_clockText {p : Char → Prop} (hdigit : ∀ c, c.isDigit = true → p c)
    (hcolon : p ':') (hpoint : p '.') (hour minute second micro : Nat) :
    ∀ c ∈ clockText hour minute second micro, p c := by
  have hdigits : ∀ n, ∀ c ∈ twoDigits n, p c :=
    fun _ c hc ↦ hdigit c (isDigit_of_mem_twoDigits c hc)
  simp only [clockText, List.forall_mem_append, List.forall_mem_cons]
  refine ⟨hdigits _, hcolon, hdigits _, hcolon, hdigits _, ?_⟩
  split
  · exact List.forall_mem_nil _
  · simp only [sixDigits, List.forall_mem_append, List.forall_mem_cons]
    exact ⟨hpoint, ⟨hdigits _, hdigits _⟩, hdigits _⟩

end Iso

/-! ## Dates -/

theorem Calendar.daysInMonth_le (year month : Nat) : daysInMonth year month ≤ 31 := by
  have hall : ∀ n ∈ monthLengths year, n ≤ 31 := by
    unfold monthLengths
    split <;> decide
  rw [daysInMonth, List.getD_eq_getElem?_getD]
  cases hn : (monthLengths year)[month - 1]? with
  | none => decide
  | some n => exact hall n (List.mem_of_getElem? hn)

namespace Date

open Iso

theorem toList_toString (d : Date) :
    d.toString.toList =
      fourDigits d.year ++ '-' :: (twoDigits d.month ++ '-' :: twoDigits d.day) := by
  simp [toString]

theorem length_toList_toString (d : Date) : d.toString.toList.length = 10 := by
  rw [toList_toString]
  rfl

theorem forall_isWritten_toString (d : Date) : ∀ c ∈ d.toString.toList, IsWritten c := by
  simp only [toList_toString, fourDigits, List.forall_mem_append, List.forall_mem_cons]
  exact ⟨⟨isWritten_of_mem_twoDigits, isWritten_of_mem_twoDigits⟩, by decide,
    isWritten_of_mem_twoDigits, by decide, isWritten_of_mem_twoDigits⟩

theorem readDate?_toString (d : Date) (len : Nat) (rest : List Char) :
    readDate? len (d.toString.toList ++ rest) = some d := by
  obtain ⟨year, month, day, hvalid⟩ := d
  have hday := Calendar.daysInMonth_le year month
  have hyear : year % 10000 = year := Nat.mod_eq_of_lt (by omega)
  have hmonth : month % 100 = month := Nat.mod_eq_of_lt (by omega)
  have hday : day % 100 = day := Nat.mod_eq_of_lt (by omega)
  have hweek := peek_twoDigits_beq (c := 'W') rfl month ('-' :: (twoDigits day ++ rest))
  have hdash : ∀ cs, (peek ('-' :: cs) == '-') = true := fun _ ↦ rfl
  simp only [toList_toString, readDate?, List.append_assoc, List.cons_append,
    readDigits?_fourDigits, bind, Option.bind_some, hdash, if_true, List.tail_cons, hweek,
    Bool.false_eq_true, if_false, readDigits?_twoDigits, Nat.zero_mul, Nat.zero_add, hyear,
    hmonth, hday, ofParts?]
  exact dif_pos hvalid

theorem parse?_toString (d : Date) : parse? d.toString = some d := by
  have hread := readDate?_toString d 10 []
  rw [List.append_nil] at hread
  simp [parse?, byteUnits_of_written d.forall_isWritten_toString, hread, length_toList_toString]

theorem toString_injective {d e : Date} (heq : d.toString = e.toString) : d = e := by
  have hparse := parse?_toString d
  rw [heq, parse?_toString] at hparse
  exact (Option.some.inj hparse).symm

end Date

/-! ## Offsets -/

namespace ZoneOffset

open Iso

def sign (z : ZoneOffset) : Char := if z.micros < 0 then '-' else '+'

/-- What is written of an offset after its sign. -/
def digits (z : ZoneOffset) : List Char :=
  let n := z.micros.natAbs
  let seconds := n / 1000000
  if seconds % 60 = 0 ∧ n % 1000000 = 0 then
    twoDigits (seconds / 3600) ++ ':' :: twoDigits (seconds / 60 % 60)
  else clockText (seconds / 3600) (seconds / 60 % 60) (seconds % 60) (n % 1000000)

theorem written_eq (z : ZoneOffset) : z.written = z.sign :: z.digits := by
  by_cases hseconds : z.micros.natAbs / 1000000 % 60 = 0 <;>
    by_cases hmicros : z.micros.natAbs % 1000000 = 0 <;>
    simp [written, sign, digits, clockText, hseconds, hmicros]

/-- The parts of an offset are read as its size. -/
theorem readTime?_digits (z : ZoneOffset) :
    ∃ t, readTime? z.digits '\x00' = some t ∧ t.leftOver = false ∧ t.micro < 1000000 ∧
      t.seconds * 1000000 + t.micro = z.micros.natAbs := by
  have hbound := z.bound
  unfold digits
  dsimp only
  generalize z.micros.natAbs = n at *
  split
  · refine ⟨⟨[n / 1000000 / 3600, n / 1000000 / 60 % 60], 0, false⟩, ?_, rfl,
      Nat.zero_lt_succ _, ?_⟩
    · rw [readTime?, readParts?_colon rfl _ _ _ _ (by simp [twoDigits]), readParts?_last,
        Nat.mod_eq_of_lt (by omega), Nat.mod_eq_of_lt (by omega)]
      rfl
    · simp [TimeParts.seconds]
      omega
  · refine ⟨_, readTime?_clockText (by omega) _, rfl, Nat.mod_lt _ (by decide), ?_⟩
    simp [TimeParts.seconds]
    omega

/-- Whether reading keeps an offset: one of no whole seconds is read as zero. -/
def IsReadable (z : ZoneOffset) : Prop := z.micros = 0 ∨ 1000000 ≤ z.micros.natAbs

theorem sign_beq (z : ZoneOffset) : (z.sign == '-') = decide (z.micros < 0) := by
  by_cases hz : z.micros < 0 <;> simp [sign, hz]

theorem readZone?_written {z : ZoneOffset} (hz : z.IsReadable) (leftOver : Bool) :
    readZone? leftOver z.written = some (some z) := by
  obtain ⟨t, hread, hleftOver, hmicro, hsize⟩ := z.readTime?_digits
  have hsigned : (if z.sign == '-' then
      -(if t.seconds = 0 then 0 else ((t.seconds * 1000000 + t.micro : Nat) : Int))
      else if t.seconds = 0 then 0 else ((t.seconds * 1000000 + t.micro : Nat) : Int)) =
        z.micros := by
    rw [sign_beq, hsize]
    have hzero : t.seconds = 0 → z.micros = 0 := by
      unfold IsReadable at hz
      omega
    by_cases hneg : z.micros < 0
    · rw [decide_eq_true hneg, if_pos rfl, if_neg fun h ↦ by omega]
      omega
    · rw [decide_eq_false hneg, if_neg Bool.false_ne_true]
      split <;> omega
  have hoffset : t.offset? (z.sign == '-') = some z := by
    rw [TimeParts.offset?, ofMicros?]
    simp only [hsigned]
    exact dif_pos z.bound
  rw [written_eq]
  unfold readZone?
  split
  · contradiction
  · rename_i heq
    have hsign : z.sign ≠ 'Z' := by
      unfold sign
      split <;> decide
    exact absurd (List.cons.inj heq).1 hsign
  · rename_i heq
    obtain ⟨rfl, rfl⟩ := List.cons.inj heq
    simp [hread, hleftOver, hoffset]

theorem isReadable_of_offset? {negative : Bool} {t : TimeParts} {z : ZoneOffset}
    (h : t.offset? negative = some z) : z.IsReadable := by
  have hof : ∀ n : Int, ofMicros? n = some z → z.micros = n := by
    intro n hn
    obtain ⟨_, hn⟩ := Option.dite_none_right_eq_some.mp hn
    rw [← Option.some.inj hn]
  have hmicros := hof _ h
  unfold IsReadable
  split at hmicros <;> split at hmicros <;> omega

/-- What was read as an offset is kept when it is read again. -/
theorem isReadable_of_readZone? {leftOver : Bool} {cs : List Char} {z : ZoneOffset}
    (h : readZone? leftOver cs = some (some z)) : z.IsReadable := by
  unfold readZone? at h
  split at h
  · split at h <;> simp at h
  · split at h
    · simp at h
      exact .inl (h ▸ rfl)
    · simp at h
  · obtain ⟨t, -, h⟩ := Option.bind_eq_some_iff.mp h
    split at h
    · contradiction
    · obtain ⟨z', hz', heq⟩ := Option.map_eq_some_iff.mp h
      exact isReadable_of_offset? (Option.some.inj heq ▸ hz')

theorem forall_isWritten_written (z : ZoneOffset) : ∀ c ∈ z.written, IsWritten c := by
  have hsign : IsWritten z.sign := by
    unfold sign
    split <;> decide
  rw [written_eq, List.forall_mem_cons]
  refine ⟨hsign, ?_⟩
  unfold digits
  dsimp only
  split
  · simp only [List.forall_mem_append, List.forall_mem_cons]
    exact ⟨isWritten_of_mem_twoDigits, by decide, isWritten_of_mem_twoDigits⟩
  · exact forall_mem_clockText (fun _ ↦ .inl) (by decide) (by decide) _ _ _ _

theorem opensZone_sign (z : ZoneOffset) : opensZone z.sign = true := by
  unfold sign
  split <;> rfl

theorem written_injective {z z' : ZoneOffset} (heq : z.written = z'.written) : z = z' := by
  rw [written_eq, written_eq] at heq
  obtain ⟨hsign, hdigits⟩ := List.cons.inj heq
  obtain ⟨t, hread, -, -, hsize⟩ := z.readTime?_digits
  obtain ⟨t', hread', -, -, hsize'⟩ := z'.readTime?_digits
  rw [hdigits, hread'] at hread
  obtain rfl := Option.some.inj hread
  have hnegative : decide (z.micros < 0) = decide (z'.micros < 0) := by
    rw [← sign_beq, ← sign_beq, hsign]
  have hmicros : z.micros = z'.micros := by
    have := decide_eq_decide.mp hnegative
    omega
  cases z
  cases z'
  simpa using hmicros

end ZoneOffset

/-! ## Timestamps -/

namespace Timestamp

open Iso

/-- The zone of a timestamp as it is written: nothing if it has none. -/
def zoneText (offset : Option ZoneOffset) : List Char :=
  (offset.map ZoneOffset.written).getD []

theorem toList_toString (t : Timestamp) :
    t.toString.toList = t.date.toString.toList ++
      'T' :: (clockText t.clock.hour t.clock.minute t.clock.second t.clock.micro ++
        zoneText t.offset) := by
  simp only [toString, clockText, zoneText, String.toList_ofList, List.append_assoc,
    List.cons_append]

theorem forall_isWritten_toString (t : Timestamp) : ∀ c ∈ t.toString.toList, IsWritten c := by
  simp only [toList_toString, List.forall_mem_append, List.forall_mem_cons]
  refine ⟨t.date.forall_isWritten_toString, by decide,
    forall_mem_clockText (fun _ ↦ .inl) (by decide) (by decide) _ _ _ _, ?_⟩
  cases t.offset with
  | none => exact List.forall_mem_nil _
  | some z => exact z.forall_isWritten_written

theorem not_opensZone_of_isDigit {c : Char} (hc : c.isDigit = true) : opensZone c = false := by
  rw [Bool.eq_false_iff]
  intro hopens
  simp only [opensZone, Bool.or_eq_true, beq_iff_eq] at hopens
  rcases hopens with (rfl | rfl) | rfl <;> contradiction

theorem takeWhile_zoneText (offset : Option ZoneOffset) :
    (zoneText offset).takeWhile (!opensZone ·) = [] ∧
      (zoneText offset).dropWhile (!opensZone ·) = zoneText offset := by
  cases offset with
  | none => exact ⟨rfl, rfl⟩
  | some z =>
      have hsign : opensZone z.sign = true := z.opensZone_sign
      simp [zoneText, ZoneOffset.written_eq, hsign]

/-- A time of day ends where its zone opens. -/
theorem span_clockText (hour minute second micro : Nat) (offset : Option ZoneOffset) :
    (clockText hour minute second micro ++ zoneText offset).takeWhile (!opensZone ·) =
        clockText hour minute second micro ∧
      (clockText hour minute second micro ++ zoneText offset).dropWhile (!opensZone ·) =
        zoneText offset := by
  have hclock : ∀ c ∈ clockText hour minute second micro, (!opensZone c) = true :=
    forall_mem_clockText (fun _ hc ↦ by rw [not_opensZone_of_isDigit hc]; rfl) (by decide)
      (by decide) _ _ _ _
  obtain ⟨htake, hdrop⟩ := takeWhile_zoneText offset
  rw [List.takeWhile_append_of_pos hclock, List.dropWhile_append_of_pos hclock, htake, hdrop,
    List.append_nil]
  exact ⟨rfl, rfl⟩

theorem readClock?_clockText (clock : Clock) {offset : Option ZoneOffset}
    (hoffset : ∀ z, offset = some z → z.IsReadable) :
    readClock? (clockText clock.hour clock.minute clock.second clock.micro ++ zoneText offset) =
      some (clock, offset) := by
  obtain ⟨hour, minute, second, micro, hvalid⟩ := clock
  obtain ⟨htake, hdrop⟩ := span_clockText hour minute second micro offset
  have hzone : readZone? (peek (zoneText offset) != '\x00') (zoneText offset) = some offset := by
    cases offset with
    | none => rfl
    | some z => exact ZoneOffset.readZone?_written (hoffset z rfl) _
  have hclock : TimeParts.clock? ⟨[hour, minute, second], micro, peek (zoneText offset) != '\x00'⟩ =
      some ⟨hour, minute, second, micro, hvalid⟩ := dif_pos hvalid
  have hbounds : hour < 100 ∧ minute < 100 ∧ second < 100 ∧ micro < 1000000 := by omega
  have htime := readTime?_clockText hbounds (peek (zoneText offset))
  simp only [readClock?, htake, hdrop, bind, htime, Option.bind_some, hzone, hclock]

/-- The date of a timestamp takes the first ten characters of its text. -/
theorem dateLength?_toString (t : Timestamp) : dateLength? t.toString.toList = some 10 := by
  rw [toList_toString, Date.toList_toString]
  generalize clockText _ _ _ _ ++ zoneText _ = rest
  generalize hcs : fourDigits t.date.year ++ '-' :: (twoDigits t.date.month ++
    '-' :: twoDigits t.date.day) ++ 'T' :: rest = cs
  have hlength : 7 < cs.length := by
    simp [← hcs, fourDigits, twoDigits]
  have hdash : (peek (cs.drop 4) == '-') = true := by
    rw [← hcs]
    rfl
  have hweek : (peek (cs.drop 5) == 'W') = false := by
    rw [← hcs]
    exact peek_twoDigits_beq rfl t.date.month ('-' :: (twoDigits t.date.day ++ 'T' :: rest))
  rw [dateLength?, if_neg (by omega), if_neg (by omega), if_pos hdash, if_neg (by simp [hweek])]

theorem drop_date_toString (t : Timestamp) :
    t.toString.toList.drop 10 =
      'T' :: (clockText t.clock.hour t.clock.minute t.clock.second t.clock.micro ++
        zoneText t.offset) := by
  rw [toList_toString]
  exact List.drop_left' t.date.length_toList_toString

/-- A timestamp is read as what was written unless its offset is a fraction of a second only. -/
theorem parse?_toString {t : Timestamp} (hoffset : ∀ z, t.offset = some z → z.IsReadable) :
    parse? t.toString = some t := by
  have hdate : readDate? 10 t.toString.toList = some t.date := by
    rw [toList_toString]
    exact Date.readDate?_toString _ _ _
  have hclock : t.toString.toList.drop (10 + 'T'.utf8Size) =
      clockText t.clock.hour t.clock.minute t.clock.second t.clock.micro ++ zoneText t.offset := by
    rw [← List.drop_drop, drop_date_toString]
    rfl
  simp only [parse?, byteUnits_of_written t.forall_isWritten_toString, dateLength?_toString,
    bind, Option.bind_some, hdate, drop_date_toString, hclock, readClock?_clockText _ hoffset]

/-- Reading never makes an offset that a second reading would not keep. -/
theorem isReadable_of_parse? {s : String} {t : Timestamp} (h : parse? s = some t) {z : ZoneOffset}
    (hz : t.offset = some z) : z.IsReadable := by
  obtain ⟨len, -, h⟩ := Option.bind_eq_some_iff.mp h
  obtain ⟨date, -, h⟩ := Option.bind_eq_some_iff.mp h
  split at h
  · obtain rfl := Option.some.inj h
    contradiction
  · obtain ⟨⟨clock, offset⟩, hclock, h⟩ := Option.bind_eq_some_iff.mp h
    obtain rfl := Option.some.inj h
    obtain ⟨parts, -, hclock⟩ := Option.bind_eq_some_iff.mp hclock
    obtain ⟨offset', hzone, hclock⟩ := Option.bind_eq_some_iff.mp hclock
    obtain ⟨clock', -, hclock⟩ := Option.bind_eq_some_iff.mp hclock
    cases hclock
    cases hz
    exact ZoneOffset.isReadable_of_readZone? hzone

theorem zoneText_injective {offset offset' : Option ZoneOffset}
    (heq : zoneText offset = zoneText offset') : offset = offset' := by
  cases offset <;> cases offset' <;>
    simp only [zoneText, ZoneOffset.written_eq, Option.map_none, Option.map_some, Option.getD_none,
      Option.getD_some, reduceCtorEq] at heq
  · rfl
  · rw [← ZoneOffset.written_eq, ← ZoneOffset.written_eq] at heq
    rw [ZoneOffset.written_injective heq]

theorem clockText_injective {c d : Clock}
    (heq : clockText c.hour c.minute c.second c.micro =
      clockText d.hour d.minute d.second d.micro) : c = d := by
  obtain ⟨hour, minute, second, micro, hvalid⟩ := c
  obtain ⟨hour', minute', second', micro', hvalid'⟩ := d
  have hbounds : hour < 100 ∧ minute < 100 ∧ second < 100 ∧ micro < 1000000 := by omega
  have hread := readTime?_clockText hbounds '\x00'
  rw [heq, readTime?_clockText (by dsimp only; omega)] at hread
  simpa [eq_comm, and_assoc] using hread

theorem toString_injective {t u : Timestamp} (heq : t.toString = u.toString) : t = u := by
  have htext := congrArg String.toList heq
  have hdate : t.date = u.date := by
    have hread := Date.readDate?_toString t.date 10
      ('T' :: (clockText t.clock.hour t.clock.minute t.clock.second t.clock.micro ++
        zoneText t.offset))
    rw [← toList_toString, htext, toList_toString, Date.readDate?_toString] at hread
    exact (Option.some.inj hread).symm
  have hrest := congrArg (List.drop 10) htext
  rw [drop_date_toString, drop_date_toString] at hrest
  have hrest := (List.cons.inj hrest).2
  have hspan := span_clockText t.clock.hour t.clock.minute t.clock.second t.clock.micro t.offset
  rw [hrest, (span_clockText ..).1, (span_clockText ..).2] at hspan
  obtain ⟨hclock, hzone⟩ := hspan
  cases t
  cases u
  rw [Timestamp.mk.injEq]
  exact ⟨hdate, clockText_injective hclock.symm, zoneText_injective hzone.symm⟩

end Timestamp

end OrgService
