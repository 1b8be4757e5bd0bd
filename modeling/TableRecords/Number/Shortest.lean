import TableRecords.Number.Binary64

/-! # The shortest decimal text that reads back

The reals that round to a magnitude form an interval, with its ends when the mantissa is even. The
decimal written for the magnitude has the fewest digits of all decimals in that interval, and of
those it is the nearest. The first power of ten whose grid meets the interval gives the digits, and
if a grid meets it, one of the magnitude's two neighbours on that grid lies in it.
-/

namespace TableRecords

def decimalWidth (n : Nat) : Nat :=
  if n < 10 then 1 else decimalWidth (n / 10) + 1
termination_by n
decreasing_by omega

namespace Magnitude

def decimalExponent (x : Magnitude) : Int :=
  (decimalWidth (x.units * tenPow 400 / one) : Int) - 401

/-- Quarter units between the magnitude and the lower end of its interval: the gap below the least
mantissa of a binade is half as wide as the one above. -/
def lowerMargin (x : Magnitude) : Nat :=
  if x.mantissa = twoPow 52 ∧ 0 < x.shift then twoPow x.shift else 2 * twoPow x.shift

def upperMargin (x : Magnitude) : Nat := 2 * twoPow x.shift

/-- A decimal `digits * 10 ^ exponent` in quarter units, over the denominator that `exponent`
asks for. -/
def gridPoint (digits : Nat) (exponent : Int) : Nat := digits * tenPow exponent.toNat * (4 * one)

def readsBack (x : Magnitude) (digits : Nat) (exponent : Int) : Bool :=
  let scale := tenPow (-exponent).toNat
  let point := gridPoint digits exponent
  let low := (4 * x.units - x.lowerMargin) * scale
  let high := (4 * x.units + x.upperMargin) * scale
  if x.mantissa % 2 = 0 then low ≤ point && point ≤ high else low < point && point < high

/-- The neighbour of the magnitude on the grid of `10 ^ exponent` that rounds to it; the nearer one
if both do. -/
def onGrid? (x : Magnitude) (exponent : Int) : Option (Nat × Int) :=
  let numerator := x.units * tenPow (-exponent).toNat
  let denominator := one * tenPow exponent.toNat
  let below := numerator / denominator
  let nearest := roundHalfEven numerator denominator
  let other := if nearest = below then below + 1 else below
  if x.readsBack nearest exponent then some (nearest, exponent)
  else if x.readsBack other exponent then some (other, exponent)
  else none

/-- The fewest digits, and the exponent of the last of them, that read back as the magnitude.
Seventeen digits always do. -/
def shortest (x : Magnitude) : Nat × Int :=
  let leading := x.decimalExponent
  ((List.range 17).findSome? fun (more : Nat) => x.onGrid? (leading - more)).getD
    (x.units, -1074)

end Magnitude

def significantDigits (n : Nat) : List Char :=
  ((Nat.toDigits 10 n).reverse.dropWhile (· == '0')).reverse

def exponentText (exponent : Int) : List Char :=
  let digits := Nat.toDigits 10 exponent.natAbs
  (if exponent < 0 then '-' else '+') :: (List.replicate (2 - digits.length) '0' ++ digits)

/-- Digits with the point after the first `place` of them: positional from `10 ^ (-4)` up to
`10 ^ 16`, always with a digit on both sides of the point, and with an exponent outside. -/
def layDecimal (digits : List Char) (place : Int) : List Char :=
  if -4 < place ∧ place ≤ 16 then
    if place ≤ 0 then
      '0' :: '.' :: (List.replicate (-place).toNat '0' ++ digits)
    else
      let whole := digits.take place.toNat
      let fraction := digits.drop place.toNat
      whole ++ List.replicate (place.toNat - whole.length) '0' ++ '.' ::
        (if fraction.isEmpty then ['0'] else fraction)
  else
    match digits with
    | [] => []
    | lead :: rest =>
      lead :: ((if rest.isEmpty then [] else '.' :: rest) ++ 'e' :: exponentText (place - 1))

def Magnitude.decimalChars (x : Magnitude) : List Char :=
  if x.mantissa = 0 then ['0', '.', '0']
  else
    let (digits, exponent) := x.shortest
    layDecimal (significantDigits digits) (decimalWidth digits + exponent)

def Binary64.toText : Binary64 → String
  | .nan => "nan"
  | .infinite negative => if negative then "-inf" else "inf"
  | .finite negative magnitude =>
    String.ofList ((if negative then ['-'] else []) ++ magnitude.decimalChars)

end TableRecords
