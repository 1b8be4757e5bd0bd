import TableRecords.Fault
import TableRecords.Text.Blank
import TableRecords.Text.Digit
import TableRecords.Value.Key

/-! # Values as integers

What integer a value stands for: numerals are read, other numbers lose their fraction.
-/

namespace TableRecords

/-- The digits of a numeral in which a single `_` may stand between two digits, first digit first.
`between` says that the character before was a digit. -/
def groupedDigits? (digit? : Char → Option Nat) (between : Bool) : List Char → Option (List Nat)
  | [] => if between then some [] else none
  | '_' :: rest => if between then groupedDigits? digit? false rest else none
  | c :: rest => do
    let d ← digit? c
    let ds ← groupedDigits? digit? true rest
    pure (d :: ds)

def ofDigitValues (digits : List Nat) : Nat := digits.foldl (fun n d => 10 * n + d) 0

def leadingRun? (digit? : Char → Option Nat) (cs : List Char) : Option (List Nat × Bool) :=
  let (run, rest) := cs.span fun c => c == '_' || (digit? c).isSome
  (groupedDigits? digit? false run).map fun digits => (digits, rest.isEmpty)

def asciiDigit? (c : Char) : Option Nat :=
  if c.isDigit then some (c.toNat - '0'.toNat) else none

def isAsciiSpace (c : Char) : Bool := isSpace c && c.toNat < 128

def latinChars (bytes : List UInt8) : List Char := bytes.map fun b => Char.ofNat b.toNat

/-- An integer in decimal, unless it has too many digits. -/
def integerText (n : Int) : Except Fault String :=
  if tenPow digitLimit ≤ n.natAbs then .error (.numeralTooLong none) else .ok (toString n)

namespace Value

/-- The integer a value stands for, or why there is none. Text may use the digits of any script,
bytes those of ASCII; numbers are cut off at the point. -/
def toInteger (v : Value) : Except Fault Int :=
  match v with
  | bool b => .ok b.toNat
  | int n => .ok n
  | real x =>
    match x with
    | .nan => .error (.integerOfNaN false)
    | .infinite _ => .error (.integerOfInfinity false)
    | .finite .. => .ok (x.truncate?.getD 0)
  | decimal d =>
    match d with
    | .nan .. => .error (.integerOfNaN true)
    | .infinite _ => .error (.integerOfInfinity true)
    | .finite .. => .ok (d.truncate?.getD 0)
  | text s => ofNumeral digitValue? (trimBoth isSpace s.toList)
  | blob bytes => ofNumeral asciiDigit? (trimBoth isAsciiSpace (latinChars bytes))
  | _ => .error (.notIntegral v.typeName)
where
  /-- The integer that an optional sign and grouped digits name. The digits are counted before
  what follows them is looked at. -/
  ofNumeral (digit? : Char → Option Nat) (cs : List Char) : Except Fault Int :=
    let (negative, rest) := splitSign cs
    match leadingRun? digit? rest with
    | none => .error (.notInteger v)
    | some (digits, complete) =>
      if digitLimit < digits.length then .error (.numeralTooLong (some digits.length))
      else if complete then .ok (signedNat negative (ofDigitValues digits))
      else .error (.notInteger v)

end Value

end TableRecords
