import OrgService.Text.Blank
import OrgService.Text.Digit

/-!
# Decimal numbers

A decimal is a signed coefficient with a power of ten, an infinity, or a NaN with a payload; sign
and exponent are kept even where the number is zero. The written form is scientific once the
exponent is positive or the leading digit lies below 10⁻⁶.
-/

namespace OrgService

/-- A decimal number; `nan` carries its sign, whether it signals, and its payload. -/
inductive Decimal where
  | finite (negative : Bool) (coefficient : Nat) (exponent : Int)
  | infinity (negative : Bool)
  | nan (negative signaling : Bool) (payload : Nat)
  deriving DecidableEq, Repr, Inhabited

namespace Decimal

def maxAdjusted : Int := 999999999999999999

def minExponent : Int := -1999999999999999997

def adjusted (coefficient : Nat) (exponent : Int) : Int :=
  exponent + (Nat.toDigits 10 coefficient).length - 1

def inRange (coefficient : Nat) (exponent : Int) : Bool :=
  adjusted coefficient exponent ≤ maxAdjusted && minExponent ≤ exponent

def layOut (coefficient : Nat) (exponent : Int) : List Char :=
  let ds := Nat.toDigits 10 coefficient
  let lead := adjusted coefficient exponent
  if exponent ≤ 0 ∧ -6 ≤ lead then
    if exponent = 0 then ds
    else
      let fraction := (-exponent).toNat
      if fraction < ds.length then
        ds.take (ds.length - fraction) ++ '.' :: ds.drop (ds.length - fraction)
      else '0' :: '.' :: List.replicate (fraction - ds.length) '0' ++ ds
  else
    let mantissa := match ds with
      | [] => []
      | [c] => [c]
      | c :: cs => c :: '.' :: cs
    mantissa ++ 'E' :: (if lead < 0 then '-' else '+') :: Nat.toDigits 10 lead.natAbs

def toString (d : Decimal) : String :=
  String.ofList <| match d with
    | .finite negative coefficient exponent =>
      (if negative then ['-'] else []) ++ layOut coefficient exponent
    | .infinity negative => (if negative then ['-'] else []) ++ "Infinity".toList
    | .nan negative signaling payload =>
      (if negative then ['-'] else []) ++ (if signaling then ['s'] else []) ++ "NaN".toList ++
        (if payload = 0 then [] else Nat.toDigits 10 payload)

instance : ToString Decimal := ⟨Decimal.toString⟩

/-- Digits of any script as ASCII digits; every other character stays. -/
def asciiDigit (c : Char) : Char :=
  match Text.digitValue? c with
  | some d => Char.ofNat (0x30 + d)
  | none => c

def ofDigits (cs : List Char) : Nat :=
  cs.foldl (fun n c ↦ 10 * n + (c.toNat - 0x30)) 0

def spanDigits (cs : List Char) : List Char × List Char :=
  (cs.takeWhile Char.isDigit, cs.dropWhile Char.isDigit)

/-- Splits off the sign; `true` for a minus. -/
def splitSign : List Char → Bool × List Char
  | '-' :: cs => (true, cs)
  | '+' :: cs => (false, cs)
  | cs => (false, cs)

/-- The exponent after a coefficient: nothing, or an `e`, a sign and at least one digit. -/
def exponent? : List Char → Option Int
  | [] => some 0
  | e :: cs =>
    let (negative, ds) := splitSign cs
    if (e == 'e' || e == 'E') && !ds.isEmpty && ds.all Char.isDigit then
      some (if negative then -(ofDigits ds : Int) else ofDigits ds)
    else none

def number? (negative : Bool) (cs : List Char) : Option Decimal :=
  let (whole, rest) := spanDigits cs
  let (fraction, rest) := match rest with
    | '.' :: tail => spanDigits tail
    | _ => ([], rest)
  if whole.isEmpty && fraction.isEmpty then none
  else do
    let e ← exponent? rest
    let coefficient := ofDigits (whole ++ fraction)
    let exponent := e - fraction.length
    if inRange coefficient exponent then some (.finite negative coefficient exponent) else none

def payload? (negative signaling : Bool) (cs : List Char) : Option Decimal :=
  if cs.all Char.isDigit then some (.nan negative signaling (ofDigits cs)) else none

def unsigned? (negative : Bool) (cs : List Char) : Option Decimal :=
  let lower := cs.map Char.toLower
  if lower == "inf".toList || lower == "infinity".toList then some (.infinity negative)
  else if "nan".toList.isPrefixOf lower then payload? negative false (cs.drop 3)
  else if "snan".toList.isPrefixOf lower then payload? negative true (cs.drop 4)
  else number? negative cs

/-- Reads a decimal: blanks around it and underscores anywhere are ignored, and digits of any
script count. A number that has no exact representation is refused. -/
def parse? (s : String) : Option Decimal :=
  let cs := ((Text.trimBoth Text.isBlank s.toList).filter (· != '_')).map asciiDigit
  let (negative, rest) := splitSign cs
  unsigned? negative rest

end Decimal

end OrgService
