import OrgService.Calendar.Timestamp

/-!
# Dates and timestamps as text

Dates and timestamps are written in the extended format of ISO 8601. Reading accepts the basic
and extended calendar and week forms; a timestamp may put any character between date and time,
may leave out the smaller parts of the time, and may end in `Z` or an offset. Positions count the
bytes of UTF-8, and a missing character reads as NUL.
-/

namespace OrgService

namespace Iso

def twoDigits (n : Nat) : List Char :=
  [Char.ofNat (0x30 + n / 10 % 10), Char.ofNat (0x30 + n % 10)]

def fourDigits (n : Nat) : List Char := twoDigits (n / 100) ++ twoDigits n

def sixDigits (n : Nat) : List Char := twoDigits (n / 10000) ++ twoDigits (n / 100) ++ twoDigits n

/-- A text as a list with one entry for each byte of its encoding: a character stands for its
first byte and U+0080 for each further one. -/
def byteUnits (s : String) : List Char :=
  s.toList.flatMap fun c ↦ c :: List.replicate (c.utf8Size - 1) '\x80'

/-- Reads exactly `n` more digits; `acc` is the value so far. -/
def readDigits? (acc : Nat) : (n : Nat) → List Char → Option (Nat × List Char)
  | 0, cs => some (acc, cs)
  | n + 1, c :: cs =>
    if c.isDigit then readDigits? (acc * 10 + (c.toNat - 0x30)) n cs else none
  | _ + 1, [] => none

def peek (cs : List Char) : Char := cs.headD '\x00'

/-- Reads a date whose text has `len` bytes; in a week date the day is Monday if the text ends
after the week. -/
def readDate? (len : Nat) (cs : List Char) : Option Date := do
  let (year, rest) ← readDigits? 0 4 cs
  let extended := peek rest == '-'
  let rest := if extended then rest.tail else rest
  if peek rest == 'W' then
    let (week, rest) ← readDigits? 0 2 rest.tail
    if (if extended then 8 else 7) < len then
      let rest ← if extended then (if peek rest == '-' then some rest.tail else none) else some rest
      let (day, _) ← readDigits? 0 1 rest
      Date.ofWeek? year week day
    else Date.ofWeek? year week 1
  else
    let (month, rest) ← readDigits? 0 2 rest
    let rest ← if extended then (if peek rest == '-' then some rest.tail else none) else some rest
    let (day, _) ← readDigits? 0 2 rest
    Date.ofParts? year month day

/-- Parts of a time as read, and whether the reader stopped short of its end. -/
structure TimeParts where
  parts : List Nat
  micro : Nat
  leftOver : Bool
  deriving DecidableEq, Repr

/-- A fraction of a second: six digits count and further ones are skipped. -/
def readFraction? (parts : List Nat) (cs : List Char) (after : Char) : Option TimeParts := do
  let count := min 6 cs.length
  let (n, rest) ← readDigits? 0 count cs
  some ⟨parts, n * Nat.pow 10 (6 - count), (rest.dropWhile Char.isDigit).headD after != '\x00'⟩

/-- Reads `n` more parts of two digits and then a fraction. The character after the hour decides
whether colons separate the parts; `after` is the character that follows the text. -/
def readParts? (after : Char) (colons : Option Bool) (parts : List Nat) :
    (n : Nat) → List Char → Option TimeParts
  | 0, cs => readFraction? parts cs after
  | n + 1, cs => do
    let (v, rest) ← readDigits? 0 2 cs
    let next := rest.headD after
    let colons := colons.getD (next == ':')
    let parts := parts ++ [v]
    if rest.length ≤ 1 then some ⟨parts, 0, next != '\x00'⟩
    else if colons && next == ':' then readParts? after (some colons) parts n rest.tail
    else if next == '.' || next == ',' then readFraction? parts rest.tail after
    else if colons then none
    else readParts? after (some colons) parts n rest

def readTime? (cs : List Char) (after : Char) : Option TimeParts :=
  readParts? after none [] 3 cs

def opensZone (c : Char) : Bool := c == '+' || c == '-' || c == 'Z'

namespace TimeParts

def seconds (t : TimeParts) : Nat :=
  (t.parts.getD 0 0 * 60 + t.parts.getD 1 0) * 60 + t.parts.getD 2 0

def clock? (t : TimeParts) : Option Clock :=
  Clock.ofParts? (t.parts.getD 0 0) (t.parts.getD 1 0) (t.parts.getD 2 0) t.micro

/-- The offset of these parts; one of no whole seconds is zero. -/
def offset? (negative : Bool) (t : TimeParts) : Option ZoneOffset :=
  let magnitude : Int := if t.seconds = 0 then 0 else (t.seconds * 1000000 + t.micro : Nat)
  ZoneOffset.ofMicros? (if negative then -magnitude else magnitude)

end TimeParts

def utc : ZoneOffset := ⟨0, by decide⟩

/-- Reads the zone of a timestamp; `none` inside is a timestamp without one. -/
def readZone? (leftOver : Bool) : List Char → Option (Option ZoneOffset)
  | [] => if leftOver then none else some none
  | 'Z' :: cs => if peek cs == '\x00' then some (some utc) else none
  | sign :: cs => do
    let t ← readTime? cs '\x00'
    if t.leftOver then none else (t.offset? (sign == '-')).map some

def readClock? (cs : List Char) : Option (Clock × Option ZoneOffset) := do
  let zone := cs.dropWhile (!opensZone ·)
  let t ← readTime? (cs.takeWhile (!opensZone ·)) (peek zone)
  let offset ← readZone? t.leftOver zone
  let clock ← t.clock?
  some (clock, offset)

def dateLength? (cs : List Char) : Option Nat :=
  if cs.length < 7 then none
  else if cs.length = 7 then some 7
  else if peek (cs.drop 4) == '-' then
    if peek (cs.drop 5) == 'W' then
      if peek (cs.drop 8) == '-' then
        if cs.length = 9 then none
        else if (peek (cs.drop 10)).isDigit then some 8 else some 10
      else some 8
    else some 10
  else if peek (cs.drop 4) == 'W' then
    let stop := 7 + ((cs.drop 7).takeWhile Char.isDigit).length
    if stop < 9 then some stop else if stop % 2 == 0 then some 7 else some 8
  else some 8

end Iso

namespace Date

open Iso

def toString (d : Date) : String :=
  String.ofList (fourDigits d.year ++ '-' :: twoDigits d.month ++ '-' :: twoDigits d.day)

instance : ToString Date := ⟨Date.toString⟩

def parse? (s : String) : Option Date :=
  let cs := byteUnits s
  if cs.length = 7 ∨ cs.length = 8 ∨ cs.length = 10 then readDate? cs.length cs else none

end Date

namespace ZoneOffset

open Iso

/-- The written form of an offset: hours and minutes, and smaller parts if there are any. -/
def written (z : ZoneOffset) : List Char :=
  let n := z.micros.natAbs
  let seconds := n / 1000000
  (if z.micros < 0 then '-' else '+') :: twoDigits (seconds / 3600) ++ ':' ::
    twoDigits (seconds / 60 % 60) ++
    (if seconds % 60 = 0 ∧ n % 1000000 = 0 then [] else ':' :: twoDigits (seconds % 60)) ++
    (if n % 1000000 = 0 then [] else '.' :: sixDigits (n % 1000000))

end ZoneOffset

namespace Timestamp

open Iso

def toString (t : Timestamp) : String :=
  String.ofList (t.date.toString.toList ++ 'T' :: twoDigits t.clock.hour ++ ':' ::
    twoDigits t.clock.minute ++ ':' :: twoDigits t.clock.second ++
    (if t.clock.micro = 0 then [] else '.' :: sixDigits t.clock.micro) ++
    (t.offset.map ZoneOffset.written).getD [])

instance : ToString Timestamp := ⟨Timestamp.toString⟩

/-- Reads a timestamp; a date alone stands for its midnight. -/
def parse? (s : String) : Option Timestamp := do
  let cs := byteUnits s
  let len ← dateLength? cs
  let date ← readDate? len cs
  match cs.drop len with
  | [] => some ⟨date, Clock.midnight, none⟩
  | separator :: _ =>
    let (clock, offset) ← readClock? (cs.drop (len + separator.utf8Size))
    some ⟨date, clock, offset⟩

end Timestamp

end OrgService
