import OrgService.Text.Integer
import OrgService.Text.Quoted

/-!
# Globally unique identifiers

An identifier is a number of 128 bits. It is written as 32 lower-case hexadecimal digits in
groups of 8, 4, 4, 4 and 12; reading is lenient about case, grouping, braces and the `urn:uuid:`
in front.
-/

namespace OrgService

/-- A number of 128 bits that identifies a record. -/
structure Guid where
  toNat : Nat
  isLt : toNat < 1 <<< 128
  deriving DecidableEq

namespace Guid

instance : Repr Guid := ⟨fun g _ ↦ repr g.toNat⟩

instance : Inhabited Guid := ⟨⟨0, by decide⟩⟩

def ofNat (n : Nat) : Guid := ⟨n % (1 <<< 128), Nat.mod_lt _ (by decide)⟩

def grouped : List Nat → List Char → List Char
  | [], cs => cs
  | [_], cs => cs
  | n :: sizes, cs => cs.take n ++ '-' :: grouped sizes (cs.drop n)

def toString (g : Guid) : String :=
  String.ofList (grouped [8, 4, 4, 4, 12] (Text.hexDigits 32 g.toNat))

instance : ToString Guid := ⟨Guid.toString⟩

/-- Removes every occurrence of `word` from left to right. -/
def removeAll (word : List Char) : List Char → List Char
  | [] => []
  | c :: cs =>
    if word.isPrefixOf (c :: cs) then removeAll word ((c :: cs).drop (max 1 word.length))
    else c :: removeAll word cs
  termination_by cs => cs.length
  decreasing_by all_goals simp [List.length_drop]; try omega

/-- What is left of a written identifier when its decoration is taken off: the words `urn:` and
`uuid:`, braces at the ends, and dashes. -/
def undecorated (s : String) : List Char :=
  let cs := removeAll "uuid:".toList (removeAll "urn:".toList s.toList)
  (Text.trimBoth (fun c ↦ c == '\x7b' || c == '\x7d') cs).filter (· != '-')

/-- Why a text is no identifier. -/
inductive Malformed where
  | length
  | digits (text : String)
  deriving DecidableEq, Repr

def Malformed.message : Malformed → String
  | .length => "badly formed hexadecimal UUID string"
  | .digits text =>
    "invalid literal for int() with base 16: " ++
      String.ofList ((Text.quoted text).toList.take 200)

/-- Reads an identifier: 32 characters must be left once the decoration is gone, and they must
be a number in base sixteen. -/
def parse (s : String) : Except Malformed Guid :=
  let cs := undecorated s
  if cs.length ≠ 32 then .error .length
  else match Text.hexInteger? cs with
    | some n => .ok (ofNat n.toNat)
    | none => .error (.digits (String.ofList cs))

def parse? (s : String) : Option Guid := (parse s).toOption

end Guid

end OrgService
