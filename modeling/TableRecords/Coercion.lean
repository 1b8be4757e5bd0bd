import TableRecords.Checked
import TableRecords.Coercion.Numeral
import TableRecords.Fault
import TableRecords.Text.Hex

/-! # Coercions

How settings and options are read from values of other types when nothing is lost: numerals from
text, truth values from their usual words, text from its bytes.
-/

namespace TableRecords

def checkNames (given : Pairs) : Except Fault Unit :=
  given.forM fun entry =>
    match entry.1 with
    | .text _ => .ok ()
    | _ => .error .optionNotText

abbrev AtLeast (low : Int) : Type := { n : Int // low ≤ n }

abbrev Within (low high : Int) : Type := { n : Int // low ≤ n ∧ n ≤ high }

def truthWords : List (String × Bool) :=
  [("1", true), ("true", true), ("t", true), ("yes", true), ("y", true), ("on", true),
    ("0", false), ("false", false), ("f", false), ("no", false), ("n", false), ("off", false)]

/-- The integer that a number is, if it is whole and has less than 64 bits besides its sign. -/
def Binary64.integer64? (x : Binary64) : Option Int :=
  match x with
  | .finite _ magnitude =>
    let n := x.truncate?.getD 0
    if magnitude.isWhole && int64Min < n && n ≤ int64Max then some n else none
  | _ => none

namespace Value

/-- The text of a value that is text or holds its bytes; `unreadable` is reported for bytes that
are not UTF-8. -/
def textOrBytes? (unreadable : ProblemKind) : Value → Option (Except ProblemKind String)
  | text s => some (.ok s)
  | blob bytes =>
    match textOfUtf8? bytes with
    | some s => some (.ok s)
    | none => some (.error unreadable)
  | _ => none

def coerceText (v : Value) : Except ProblemKind String :=
  (v.textOrBytes? .stringUnicode).getD (.error .stringType)

def wholeNumber : Value → Except ProblemKind Int
  | real x =>
    match x with
    | .finite _ magnitude =>
      if magnitude.isWhole then (x.integer64?.map Except.ok).getD (.error .intParsingSize)
      else .error .intFromFloat
    | _ => .error .finiteNumber
  | decimal d =>
    match d with
    | .finite .. => if d.isWhole then .ok (d.truncate?.getD 0) else .error .intFromFloat
    | _ => .error .finiteNumber
  | _ => .error .intType

def integerOfText (s : String) : Except ProblemKind Int :=
  if beginsTooLong s.toList then .error .intParsingSize
  else (wholeNumeral? s.toList).elim (.error .intParsing) .ok

def coerceInteger (v : Value) : Except ProblemKind Int :=
  match v with
  | int n => .ok n
  | bool b => .ok b.toNat
  | _ =>
    match v.textOrBytes? .intParsing with
    | some read => read.bind integerOfText
    | none => v.wholeNumber

def truthOfInteger (n : Int) : Except ProblemKind Bool :=
  if n = 0 then .ok false else if n = 1 then .ok true else .error .boolParsing

/-- A number as a truth value. An integer beyond 64 bits and what is no whole number have the wrong
type. Decimals are rounded to binary64 first. -/
def truthOfNumber (v : Value) : Except ProblemKind Bool :=
  let ofReal (x : Binary64) := (x.integer64?.map truthOfInteger).getD (.error .boolType)
  match v with
  | int n => if fitsInt64 n then truthOfInteger n else .error .boolType
  | real x => ofReal x
  | decimal d => ofReal d.toBinary64
  | _ => .error .boolType

def coerceBool (v : Value) : Except ProblemKind Bool :=
  match v with
  | bool b => .ok b
  | _ =>
    match v.textOrBytes? .boolParsing with
    | some (.ok s) =>
      match truthWords.lookup (String.ofList (s.toList.map Char.toLower)) with
      | some b => .ok b
      | none => .error .boolParsing
    | some (.error kind) => .error kind
    | none => v.truthOfNumber

def coerceReal (v : Value) : Except ProblemKind Binary64 :=
  match v with
  | real x => .ok x
  | bool b => .ok (.ofInt b.toNat)
  | int n =>
    match Binary64.ofInt? n with
    | some x => .ok x
    | none => .error .floatType
  | decimal d =>
    match d with
    | .nan _ true _ => .error .floatType
    | _ => .ok d.toBinary64
  | _ =>
    match v.textOrBytes? .floatParsing with
    | some (.ok s) =>
      match realNumeral? s.toList with
      | some x => .ok x
      | none => .error .floatParsing
    | some (.error kind) => .error kind
    | none => .error .floatType

def coerceAtLeast (low : Int) (v : Value) : Except ProblemKind (AtLeast low) := do
  let n ← v.coerceInteger
  if h : low ≤ n then pure ⟨n, h⟩ else throw .tooSmall

def coerceWithin (low high : Int) (v : Value) : Except ProblemKind (Within low high) := do
  let n ← v.coerceInteger
  if h : low ≤ n then
    if g : n ≤ high then pure ⟨n, h, g⟩ else throw .tooLarge
  else throw .tooSmall

def coerceOptional {α : Type} (coerce : Value → Except ProblemKind α) (v : Value) :
    Except ProblemKind (Option α) :=
  match v with
  | null => .ok none
  | _ => some <$> coerce v

end Value

end TableRecords
