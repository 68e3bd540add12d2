import OrgService.Guid

/-!
# Generators of identifiers

Records that are seeded without an identifier get one from a generator, which hands out the
identifiers of a stream one after the other. The stream of the sequential generator counts up from
one. The other built-in generators pass on what `uuid4` and `ulid` make, which is random in the one
case and ascends from a point in time in the other; any stream can stand for them.
-/

namespace OrgService

/-- The kinds of built-in generators. -/
inductive IdScheme where
  | uuid4
  | ulid
  | sequential
  deriving DecidableEq, Repr

namespace IdScheme

def all : List IdScheme := [.uuid4, .ulid, .sequential]

def text : IdScheme → String
  | .uuid4 => "uuid4"
  | .ulid => "ulid"
  | .sequential => "sequential"

def ofText? (s : String) : Option IdScheme := all.find? (·.text == s)

end IdScheme

/-- A generator: its kind if it is a built-in one, all identifiers it would ever hand out, and how
many of them it has handed out. -/
structure IdGenerator where
  scheme : Option IdScheme
  stream : Nat → Guid
  handed : Nat

namespace IdGenerator

/-- The sequential generator after it has counted to a number. -/
def sequential (last : Nat) : IdGenerator :=
  ⟨some .sequential, fun i ↦ Guid.ofNat (i + 1), last⟩

def next (g : IdGenerator) : Guid × IdGenerator :=
  (g.stream g.handed, { g with handed := g.handed + 1 })

def take (g : IdGenerator) : (count : Nat) → List Guid
  | 0 => []
  | count + 1 => g.next.1 :: take g.next.2 count

end IdGenerator

/-- The identifiers that `uuid4` and `ulid` are going to make. -/
structure IdStreams where
  uuid4 : Nat → Guid
  ulid : Nat → Guid

/-- A new generator of a kind. -/
def IdScheme.generator (streams : IdStreams) : IdScheme → IdGenerator
  | .uuid4 => ⟨some .uuid4, streams.uuid4, 0⟩
  | .ulid => ⟨some .ulid, streams.ulid, 0⟩
  | .sequential => .sequential 0

namespace IdStreams

/-- One step of a linear congruential sequence modulo 2¹²⁸. -/
def scramble (n : Nat) : Nat :=
  (n * 47026247687942121848144207491837523525 + 117397592171526113268558934119004209487) %
    (1 <<< 128)

/-- Sets the version of an identifier to four and its variant to the standard one. -/
def markVersion4 (n : Nat) : Nat :=
  let low := n % (1 <<< 62)
  let middle := (n >>> 64) % (1 <<< 12)
  let high := (n >>> 80) % (1 <<< 48)
  (high <<< 80) + (4 <<< 76) + (middle <<< 64) + (2 <<< 62) + low

/-- Streams for a run, made from a number. -/
def ofSeed (seed : Nat) : IdStreams where
  uuid4 i := Guid.ofNat (markVersion4 (scramble (seed + i)))
  ulid i := Guid.ofNat (seed % (1 <<< 127) + i + 1)

/-- A number stands for the streams that are made from it. -/
instance (seed : Nat) : OfNat IdStreams seed := ⟨ofSeed seed⟩

end IdStreams

namespace Guid

def version? (g : Guid) : Option Nat :=
  if (g.toNat >>> 62) % 4 = 2 then some ((g.toNat >>> 76) % 16) else none

end Guid

end OrgService
