import TableRecords.Number.Scientific

/-! # Decimal numbers that keep their digits

A decimal number keeps the coefficient and exponent it was written with, so `1.50` and `1.5` are
equal numbers with different texts.
-/

namespace TableRecords

inductive Decimal where
  | finite (negative : Bool) (coefficient : Nat) (exponent : Int)
  | infinite (negative : Bool)
  | nan (negative signalling : Bool) (payload : List Char)
deriving DecidableEq, Repr, Inhabited

namespace Decimal

/-- The digits of a finite decimal with its point. Written without an exponent when the exponent
is not positive and at most six zeros stand before the first digit. -/
def finiteChars (coefficient : Nat) (exponent : Int) : List Char :=
  let digits := Nat.toDigits 10 coefficient
  let left : Int := exponent + digits.length
  let place : Int := if exponent ≤ 0 ∧ -6 < left then left else 1
  let body :=
    if place ≤ 0 then '0' :: '.' :: (List.replicate (-place).toNat '0' ++ digits)
    else if (digits.length : Int) ≤ place then
      digits ++ List.replicate (place.toNat - digits.length) '0'
    else digits.take place.toNat ++ '.' :: digits.drop place.toNat
  if left = place then body
  else
    let shift := left - place
    body ++ 'E' :: (if shift < 0 then '-' else '+') :: Nat.toDigits 10 shift.natAbs

def toText (d : Decimal) : String :=
  let signed (negative : Bool) (cs : List Char) :=
    String.ofList (if negative then '-' :: cs else cs)
  match d with
  | .finite negative coefficient exponent => signed negative (finiteChars coefficient exponent)
  | .infinite negative => signed negative "Infinity".toList
  | .nan negative signalling payload =>
    signed negative ((if signalling then "sNaN" else "NaN").toList ++ payload)

def ofText? (text : String) : Option Decimal :=
  let (negative, rest) := splitSign text.toList
  match rest with
  | 'I' :: _ => if rest = "Infinity".toList then some (.infinite negative) else none
  | 'N' :: 'a' :: 'N' :: payload =>
    if payload.all Char.isDigit then some (.nan negative false payload) else none
  | 's' :: 'N' :: 'a' :: 'N' :: payload =>
    if payload.all Char.isDigit then some (.nan negative true payload) else none
  | _ => (Scientific.ofChars? rest).map fun x => .finite negative x.coefficient x.exponent

def isZero : Decimal → Bool
  | .finite _ coefficient _ => coefficient == 0
  | _ => false

def isBelowOne (coefficient : Nat) (exponent : Int) : Bool :=
  coefficient == 0 || exponent + decimalWidth coefficient ≤ 0

def truncate? : Decimal → Option Int
  | .finite negative coefficient exponent =>
    if isBelowOne coefficient exponent then some 0
    else
      let n : Int := (coefficient * tenPow exponent.toNat / tenPow (-exponent).toNat : Nat)
      some (if negative then -n else n)
  | _ => none

def isWhole : Decimal → Bool
  | .finite _ coefficient exponent =>
    coefficient == 0 ||
      (!isBelowOne coefficient exponent && coefficient % tenPow (-exponent).toNat == 0)
  | _ => false

def toBinary64 : Decimal → Binary64
  | .finite negative coefficient exponent => .ofScientific negative ⟨coefficient, exponent⟩
  | .infinite negative => .infinite negative
  | .nan .. => .nan

end Decimal

end TableRecords
