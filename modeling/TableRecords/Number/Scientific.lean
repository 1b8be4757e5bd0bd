import TableRecords.Number.Binary64
import TableRecords.Number.Shortest

/-! # Decimal numerals with an exponent

A numeral is digits, at most one point among them, and an optional decimal exponent. It stands for
a natural coefficient times a power of ten, which has one nearest binary64 number.
-/

namespace TableRecords

def ofDecimalDigits (digits : List Char) : Nat :=
  digits.foldl (fun n c => 10 * n + (c.toNat - '0'.toNat)) 0

def splitSign : List Char → Bool × List Char
  | '-' :: rest => (true, rest)
  | '+' :: rest => (false, rest)
  | rest => (false, rest)

structure Scientific where
  coefficient : Nat
  exponent : Int
deriving DecidableEq, Repr

namespace Scientific

def exponentOfChars? (cs : List Char) : Option Int :=
  let (negative, digits) := splitSign cs
  if digits.isEmpty || !digits.all Char.isDigit then none
  else
    let n : Int := ofDecimalDigits digits
    some (if negative then -n else n)

/-- An unsigned numeral: digits on at least one side of an optional point, then an optional
exponent after `e` or `E`. -/
def ofChars? (cs : List Char) : Option Scientific :=
  let (whole, rest) := cs.span Char.isDigit
  let (fraction, rest) := match rest with
    | '.' :: more => more.span Char.isDigit
    | _ => ([], rest)
  if whole.isEmpty && fraction.isEmpty then none
  else
    let coefficient := ofDecimalDigits (whole ++ fraction)
    let places : Int := fraction.length
    match rest with
    | [] => some ⟨coefficient, -places⟩
    | mark :: more =>
      if mark == 'e' || mark == 'E' then
        (exponentOfChars? more).map fun exponent => ⟨coefficient, exponent - places⟩
      else none

end Scientific

namespace Binary64

/-- The binary64 number nearest to a signed numeral. Beyond `10 ^ 400` and below `10 ^ (-400)` the
answer does not depend on the coefficient, so no power of that size is formed. -/
def ofScientific (negative : Bool) (x : Scientific) : Binary64 :=
  if x.coefficient = 0 then .finite negative .zero
  else if 400 < x.exponent then .infinite negative
  else if x.exponent + decimalWidth x.coefficient < -400 then .finite negative .zero
  else ofRatio negative (x.coefficient * tenPow x.exponent.toNat) (tenPow (-x.exponent).toNat)

/-- The binary64 number a text names: an optional sign, then a numeral, `inf`, `infinity` or `nan`
in any letter case. -/
def ofChars? (cs : List Char) : Option Binary64 :=
  let (negative, rest) := splitSign cs
  let word := String.ofList (rest.map Char.toLower)
  if word == "inf" || word == "infinity" then some (.infinite negative)
  else if word == "nan" then some .nan
  else (Scientific.ofChars? rest).map (ofScientific negative)

end Binary64

end TableRecords
