import OrgService.Calendar.Date

/-!
# Timestamps

A timestamp is a date with a time of day to the microsecond and, if it is aware of its zone, an
offset from universal time of less than a day. Naive timestamps compare by what they show, aware
ones by the instant they denote, and no naive one equals an aware one.
-/

namespace OrgService

/-- A time of day to the microsecond. -/
structure Clock where
  hour : Nat
  minute : Nat
  second : Nat
  micro : Nat
  valid : hour < 24 ∧ minute < 60 ∧ second < 60 ∧ micro < 1000000
  deriving DecidableEq

namespace Clock

instance : Repr Clock := ⟨fun c _ ↦ repr (c.hour, c.minute, c.second, c.micro)⟩

def midnight : Clock := ⟨0, 0, 0, 0, by decide⟩

def ofParts? (hour minute second micro : Nat) : Option Clock :=
  if h : hour < 24 ∧ minute < 60 ∧ second < 60 ∧ micro < 1000000
  then some ⟨hour, minute, second, micro, h⟩ else none

def micros (c : Clock) : Nat :=
  ((c.hour * 60 + c.minute) * 60 + c.second) * 1000000 + c.micro

end Clock

/-- An offset from universal time in microseconds, less than a day either way. -/
structure ZoneOffset where
  micros : Int
  bound : micros.natAbs < 86400000000
  deriving DecidableEq

namespace ZoneOffset

instance : Repr ZoneOffset := ⟨fun z _ ↦ repr z.micros⟩

def ofMicros? (n : Int) : Option ZoneOffset :=
  if h : n.natAbs < 86400000000 then some ⟨n, h⟩ else none

end ZoneOffset

/-- A date and time, aware of its zone or not. -/
structure Timestamp where
  date : Date
  clock : Clock
  offset : Option ZoneOffset
  deriving DecidableEq, Repr

namespace Timestamp

def localMicros (t : Timestamp) : Int :=
  (t.date.ordinal * 86400000000 + t.clock.micros : Nat)

/-- Microseconds of the instant the timestamp denotes; a naive one is taken as it shows. -/
def instant (t : Timestamp) : Int :=
  t.localMicros - (t.offset.map ZoneOffset.micros).getD 0

def isAware (t : Timestamp) : Bool := t.offset.isSome

end Timestamp

end OrgService
