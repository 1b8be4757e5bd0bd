import TableRecords.Number.Power

/-! # Binary64 numbers as exact dyadic values

A finite binary64 number is a sign and a whole number of units of `2 ^ (-1074)`, the smallest
positive binary64 number. Rounding a quotient of naturals to the nearest such number, ties to the
even mantissa, is one exact division of naturals, so every statement about it is a statement about
naturals.
-/

namespace TableRecords

/-- The quotient rounded to the nearest natural, a half going to the even neighbour. -/
def roundHalfEven (numerator denominator : Nat) : Nat :=
  let whole := numerator / denominator
  let rest := numerator % denominator
  if 2 * rest < denominator then whole
  else if denominator < 2 * rest then whole + 1
  else whole + whole % 2

/-- A finite magnitude: `mantissa * 2 ^ shift` units of `2 ^ (-1074)`. The mantissa has 53 bits
unless the shift is zero, so each magnitude has one form. -/
structure Magnitude where
  mantissa : Nat
  shift : Nat
  canonical : mantissa < twoPow 53 ∧ shift ≤ 2045 ∧ (shift = 0 ∨ twoPow 52 ≤ mantissa)
deriving DecidableEq, Repr

namespace Magnitude

def units (x : Magnitude) : Nat := x.mantissa * twoPow x.shift

def one : Nat := twoPow 1074

instance : Inhabited Magnitude := ⟨⟨0, 0, by decide⟩⟩

def zero : Magnitude := default

/-- A mantissa and shift in canonical form: a mantissa that was rounded up to 54 bits carries into
the shift. None when no canonical form exists, which for rounded mantissas means overflow. -/
def ofParts? (mantissa shift : Nat) : Option Magnitude :=
  if h : mantissa < twoPow 53 ∧ shift ≤ 2045 ∧ (shift = 0 ∨ twoPow 52 ≤ mantissa) then
    some ⟨mantissa, shift, h⟩
  else if h : mantissa = twoPow 53 ∧ shift + 1 ≤ 2045 then
    some ⟨twoPow 52, shift + 1, by decide, h.2, Or.inr (by decide)⟩
  else none

/-- The magnitude nearest to a quotient of naturals, ties to the even mantissa; none when the
rounded result reaches `2 ^ 1024`. -/
def ofRatio? (numerator denominator : Nat) : Option Magnitude :=
  let scaled := numerator * one
  let shift := (scaled / denominator).log2 + 1 - 53
  ofParts? (roundHalfEven scaled (denominator * twoPow shift)) shift

def floor (x : Magnitude) : Nat := x.units / one

def isWhole (x : Magnitude) : Bool := x.units % one == 0

end Magnitude

/-- A binary64 number; all payloads of "not a number" are one. -/
inductive Binary64 where
  | nan
  | infinite (negative : Bool)
  | finite (negative : Bool) (magnitude : Magnitude)
deriving DecidableEq, Repr

namespace Binary64

instance : Inhabited Binary64 := ⟨.finite false .zero⟩

def ofRatio (negative : Bool) (numerator denominator : Nat) : Binary64 :=
  match Magnitude.ofRatio? numerator denominator with
  | some magnitude => .finite negative magnitude
  | none => .infinite negative

def ofInt? (n : Int) : Option Binary64 :=
  (Magnitude.ofRatio? n.natAbs 1).map (.finite (n < 0))

/-- The number nearest to an integer; what overflows is infinite with the integer's sign. -/
def ofInt (n : Int) : Binary64 := (ofInt? n).getD (.infinite (n < 0))

def isZero : Binary64 → Bool
  | .finite _ magnitude => magnitude.mantissa == 0
  | _ => false

def truncate? : Binary64 → Option Int
  | .finite negative magnitude =>
    some (if negative then -(magnitude.floor : Int) else magnitude.floor)
  | _ => none

end Binary64

end TableRecords
