import OrgService.Text.Blank
import OrgService.Text.Digit
import OrgService.Text.Hex

/-!
# Integer literals

An integer is written as digits of any script with an optional sign, blanks around it, and single
underscores between digits; in base sixteen it may carry a `0x` in front. A decimal literal has
at most 4300 digits.
-/

namespace OrgService.Text

/-- Beyond ASCII, a digit of any script counts as the ASCII digit of its value and a blank as a
space; all other characters stay. -/
def asciiForm (c : Char) : Char :=
  if c.toNat < 0x80 then c
  else if isBlank c then ' '
  else match digitValue? c with
    | some d => Char.ofNat (0x30 + d)
    | none => c

def isLiteralBlank (c : Char) : Bool :=
  c == ' ' || (0x09 ≤ c.toNat && c.toNat ≤ 0x0D)

def baseDigit? (base : Nat) (c : Char) : Option Nat :=
  (hexValue? c).filter (· < base)

def moreDigits? (base acc : Nat) : List Char → Option Nat
  | [] => some acc
  | '_' :: c :: cs => (baseDigit? base c).bind fun d ↦ moreDigits? base (acc * base + d) cs
  | c :: cs => (baseDigit? base c).bind fun d ↦ moreDigits? base (acc * base + d) cs

def digits? (base : Nat) : List Char → Option Nat
  | [] => none
  | c :: cs => (baseDigit? base c).bind fun d ↦ moreDigits? base d cs

/-- Splits off the sign; `true` for a minus. -/
def splitSign : List Char → Bool × List Char
  | '-' :: cs => (true, cs)
  | '+' :: cs => (false, cs)
  | cs => (false, cs)

def dropHexMark : List Char → List Char
  | '0' :: x :: '_' :: cs => if x == 'x' || x == 'X' then cs else '0' :: x :: '_' :: cs
  | '0' :: x :: cs => if x == 'x' || x == 'X' then cs else '0' :: x :: cs
  | cs => cs

/-- The greatest number of digits of a decimal literal. -/
def maxDecimalDigits : Nat := 4300

def signed (negative : Bool) (n : Nat) : Int :=
  if negative then -(n : Int) else n

def decimalInteger? (s : String) : Option Int :=
  let (negative, cs) := splitSign (trimBoth isLiteralBlank (s.toList.map asciiForm))
  if (cs.filter (· != '_')).length ≤ maxDecimalDigits then (digits? 10 cs).map (signed negative)
  else none

def hexInteger? (cs : List Char) : Option Int :=
  let (negative, cs) := splitSign (trimBoth isLiteralBlank (cs.map asciiForm))
  (digits? 16 (dropHexMark cs)).map (signed negative)

end OrgService.Text
