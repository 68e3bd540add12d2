import OrgService.Number.Double

/-!
# Shortest decimal text of a double

A double is written with the fewest decimal digits that read back as the same double, and of
those the nearest. The digits come from exact arithmetic on the interval of numbers that round
to the double; a style says how digits and exponent are laid out.
-/

namespace OrgService.Double

/-- Decimal digits and the power of ten of the last one. -/
structure Digits where
  coefficient : Nat
  exponent : Int
  deriving DecidableEq, Repr

/-- Whether `coefficient * 10 ^ exponent` lies in the interval of numbers that round to the
double with this significand and exponent; its ends belong to it iff the significand is even. -/
def roundsTo (significand exponent : Nat) (d : Digits) : Bool :=
  let quarter := 1 <<< exponent
  let low := 4 * significand * quarter -
    (if significand = 1 <<< 52 ∧ exponent ≠ 0 then quarter else 2 * quarter)
  let high := 4 * significand * quarter + 2 * quarter
  let (num, den) :=
    if 0 ≤ d.exponent then (4 * scale * d.coefficient * Nat.pow 10 d.exponent.toNat, 1)
    else (4 * scale * d.coefficient, Nat.pow 10 (-d.exponent).toNat)
  if significand % 2 == 0 then low * den ≤ num && num ≤ high * den
  else low * den < num && num < high * den

/-- The power of ten of the first digit of a positive double. -/
def leadingExponent (significand exponent : Nat) : Int :=
  (digitCount (units significand exponent * Nat.pow 10 330 / scale) : Int) - 331

/-- The neighbours of a double on the grid of multiples of `10 ^ k`, below and above, and whether
the lower one is the nearer; on a tie the even one is. -/
def neighbours (significand exponent : Nat) (k : Int) : Nat × Nat × Bool :=
  let (num, den) :=
    if 0 ≤ k then (units significand exponent, scale * Nat.pow 10 k.toNat)
    else (units significand exponent * Nat.pow 10 (-k).toNat, scale)
  let below := num / den
  let twice := 2 * (num % den)
  (below, below + 1, twice < den || (twice == den && below % 2 == 0))

def onGrid? (significand exponent : Nat) (k : Int) : Option Digits :=
  let (below, above, lowerIsNearer) := neighbours significand exponent k
  let near : Digits := ⟨if lowerIsNearer then below else above, k⟩
  let far : Digits := ⟨if lowerIsNearer then above else below, k⟩
  if roundsTo significand exponent near then some near
  else if roundsTo significand exponent far then some far
  else none

def Digits.trim (d : Digits) : (fuel : Nat) → Digits
  | 0 => d
  | fuel + 1 =>
    if d.coefficient ≠ 0 ∧ d.coefficient % 10 = 0 then
      Digits.trim ⟨d.coefficient / 10, d.exponent + 1⟩ fuel
    else d

/-- The shortest digits of a finite double; seventeen always suffice. -/
def shortest (significand exponent : Nat) : Digits :=
  if significand = 0 then ⟨0, 0⟩
  else
    let lead := leadingExponent significand exponent
    match (List.range 17).findSome? fun (n : Nat) ↦ onGrid? significand exponent (lead - n) with
    | some d => d.trim 18
    | none => ⟨units significand exponent, 0⟩

/-- How the digits of a double are laid out. -/
structure Style where
  /-- Positional from this power of ten of the first digit … -/
  leastPositional : Int
  /-- … and below this one. -/
  exponentFrom : Int
  /-- Least number of digits of the exponent. -/
  exponentDigits : Nat
  infinity : String
  nan : String

def padZeros (width : Nat) (cs : List Char) : List Char :=
  List.replicate (width - cs.length) '0' ++ cs

def layOut (style : Style) (d : Digits) : List Char :=
  let ds := Nat.toDigits 10 d.coefficient
  let point : Int := d.exponent + ds.length
  if style.leastPositional ≤ point - 1 ∧ point - 1 < style.exponentFrom then
    if point ≤ 0 then '0' :: '.' :: List.replicate (-point).toNat '0' ++ ds
    else if 0 ≤ d.exponent then ds ++ List.replicate d.exponent.toNat '0' ++ ['.', '0']
    else ds.take point.toNat ++ '.' :: ds.drop point.toNat
  else
    let e := point - 1
    let mantissa := match ds with
      | [] => []
      | [c] => [c]
      | c :: cs => c :: '.' :: cs
    mantissa ++ ['e', if e < 0 then '-' else '+'] ++
      padZeros style.exponentDigits (Nat.toDigits 10 e.natAbs)

def render (style : Style) : Double → String
  | .nan => style.nan
  | .infinity negative => (if negative then "-" else "") ++ style.infinity
  | .finite negative significand exponent =>
    String.ofList ((if negative then ['-'] else []) ++ layOut style (shortest significand exponent))

def messageStyle : Style := ⟨-4, 16, 2, "inf", "nan"⟩

/-- In documents the layout is the same, and infinities and NaN have names of their own. -/
def documentStyle : Style := ⟨-4, 16, 2, "Infinity", "NaN"⟩

end OrgService.Double
