import TableRecords.Text.Blank
import TableRecords.Value.Key

/-! # Numerals in settings and options

Text is read as an integer or a real number when a person would have meant one: white space around
it, a sign, zeros in front, a fraction of zeros and underscores between digits are all let through.
Once a zero has been skipped, further zeros and underscores are skipped as well, and a minus sign
may follow them.
-/

namespace TableRecords

def plainInteger? (cs : List Char) : Option Int :=
  let (negative, digits) := match cs with
    | '-' :: rest => (true, rest)
    | _ => (false, cs)
  if digits.isEmpty || !digits.all Char.isDigit || digitLimit < digits.length then none
  else if digits.head? == some '0' && digits.length != 1 then none
  else some (signedNat negative (ofDecimalDigits digits))

def beginsTooLong (cs : List Char) : Bool :=
  let digits := (match cs with
    | '-' :: rest => rest
    | _ => cs).takeWhile Char.isDigit
  digits.head? != some '0' && digitLimit < digits.length

/-- What is left once zeros and underscores are skipped; `last` is the character skipped last, which
stays when nothing or a point follows. -/
def afterZeros? (last : Char) : List Char → Option (List Char)
  | [] => some [last]
  | c :: rest =>
    if c == '0' || c == '_' then afterZeros? c rest
    else if c == '-' || c.isDigit then some (c :: rest)
    else if c == '.' then some (last :: c :: rest)
    else none

def withoutLeadingZeros? (cs : List Char) : Option (List Char) :=
  match cs with
  | [] => none
  | c :: rest => if c == '0' then afterZeros? c rest else if c.isDigit then some cs else none

/-- The characters before a fraction that holds zeros only; all of them if there is none. -/
def withoutZeroFraction (cs : List Char) : List Char :=
  match cs.span (· != '.') with
  | (whole, _ :: zeros) => if !zeros.isEmpty && zeros.all (· == '0') then whole else cs
  | (_, []) => cs

/-- The characters without single underscores between other characters; none when there are no
underscores or some stand elsewhere. -/
def withoutUnderscores? (cs : List Char) : Option (List Char) :=
  if cs.head? == some '_' || cs.getLast? == some '_' || !cs.contains '_' then none
  else if (cs.zip cs.tail).contains ('_', '_') then none
  else some (cs.filter (· != '_'))

def wholeNumeral? (cs : List Char) : Option Int := do
  let (negative, digits) := splitSign (trimBoth isSpace cs)
  let digits ← withoutLeadingZeros? digits
  let digits := withoutZeroFraction digits
  let digits := (withoutUnderscores? digits).getD digits
  plainInteger? (if negative then '-' :: digits else digits)

/-- The binary64 number a text stands for, with white space around it or underscores within, but
not both. -/
def realNumeral? (cs : List Char) : Option Binary64 :=
  (Binary64.ofChars? (trimBoth isSpace cs)).orElse fun _ =>
    (withoutUnderscores? cs).bind Binary64.ofChars?

end TableRecords
