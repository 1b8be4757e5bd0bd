import TableRecords.Number.Shortest

/-! # Decimals of a given length

A magnitude written with a fixed count of digits: after the point, or altogether with an exponent.
Rounding is exact on the magnitude's value, a half going to the even digit.
-/

namespace TableRecords

namespace Magnitude

def paddedDigits (width n : Nat) : List Char :=
  let digits := Nat.toDigits 10 n
  List.replicate (width - digits.length) '0' ++ digits

def pointed (keepPoint : Bool) (fraction : List Char) : List Char :=
  if fraction.isEmpty && !keepPoint then [] else '.' :: fraction

def fixedChars (x : Magnitude) (places : Nat) (keepPoint : Bool) : List Char :=
  let n := roundHalfEven (x.units * tenPow places) one
  let digits := paddedDigits (places + 1) n
  let cut := digits.length - places
  digits.take cut ++ pointed keepPoint (digits.drop cut)

/-- The `places + 1` leading digits and the exponent of the first of them. -/
def leadingDigits (x : Magnitude) (places : Nat) : List Char × Int :=
  if x.mantissa = 0 then (List.replicate (places + 1) '0', 0)
  else
    let exponent := x.decimalExponent
    let shift : Int := places - exponent
    let n := roundHalfEven (x.units * tenPow shift.toNat) (one * tenPow (-shift).toNat)
    if tenPow (places + 1) ≤ n then (Nat.toDigits 10 (n / 10), exponent + 1)
    else (Nat.toDigits 10 n, exponent)

/-- Text with one digit before the point, `places` after it, and an exponent. -/
def exponentChars (x : Magnitude) (places : Nat) (keepPoint : Bool) : List Char :=
  let (digits, exponent) := x.leadingDigits places
  digits.take 1 ++ pointed keepPoint (digits.drop 1) ++ 'e' :: exponentText exponent

def trimFraction (keepZeros : Bool) (fraction : List Char) : List Char :=
  if keepZeros then fraction else (fraction.reverse.dropWhile (· == '0')).reverse

/-- Text with `precision` digits altogether: positional for exponents from `-4` up to the
precision, with an exponent outside. Trailing zeros go unless they are to be kept. -/
def generalChars (x : Magnitude) (precision : Nat) (keepZeros : Bool) : List Char :=
  let precision := max precision 1
  let (digits, exponent) := x.leadingDigits (precision - 1)
  if -4 ≤ exponent ∧ exponent < precision then
    if exponent < 0 then
      let fraction := List.replicate (-exponent - 1).toNat '0' ++ digits
      '0' :: pointed keepZeros (trimFraction keepZeros fraction)
    else
      let cut := exponent.toNat + 1
      digits.take cut ++ pointed keepZeros (trimFraction keepZeros (digits.drop cut))
  else
    digits.take 1 ++ pointed keepZeros (trimFraction keepZeros (digits.drop 1)) ++
      'e' :: exponentText exponent

end Magnitude

end TableRecords
