import TableRecords.Fault
import TableRecords.Text.CodePoints

/-! # JSON text

JSON in printable ASCII on one line: whatever is no printable ASCII character is written as an
escape, and code points beyond U+FFFF as two of them.
-/

namespace TableRecords

/-- A JSON value. Members of objects keep their order; numbers include those that JSON lacks. -/
inductive JsonValue where
  | null
  | bool (b : Bool)
  | int (n : Int)
  | real (x : Binary64)
  | text (points : CodePoints)
  | list (items : List JsonValue)
  | object (members : List (String × JsonValue))
deriving Repr, Inhabited

namespace JsonValue

def unitEscape (n : Nat) : List Char := '\\' :: 'u' :: hexDigits 4 n

def shortEscape? (n : Nat) : Option Char :=
  [('"'.toNat, '"'), ('\\'.toNat, '\\'), (0x0A, 'n'), (0x0D, 'r'), (0x09, 't'), (0x0C, 'f'),
    (0x08, 'b')].lookup n

def pointText (n : Nat) : List Char :=
  match shortEscape? n with
  | some letter => ['\\', letter]
  | none =>
    if 0x20 ≤ n && n < 0x7F then [Char.ofNat n]
    else if n < 0x10000 then unitEscape n
    else
      let rest := n - 0x10000
      unitEscape (0xD800 + rest / 0x400) ++ unitEscape (0xDC00 + rest % 0x400)

def stringText (points : CodePoints) : List Char := '"' :: (points.flatMap pointText ++ ['"'])

def ofString (s : String) : JsonValue := text (.ofString s)

def realText (x : Binary64) : String :=
  match x with
  | .nan => "NaN"
  | .infinite negative => if negative then "-Infinity" else "Infinity"
  | .finite .. => x.toText

def separated (parts : List (List Char)) : List Char := [',', ' '].intercalate parts

mutual

def chars : JsonValue → List Char
  | null => "null".toList
  | bool b => if b then "true".toList else "false".toList
  | int n => (toString n).toList
  | real x => (realText x).toList
  | text points => stringText points
  | list items => '[' :: (separated (itemChars items) ++ [']'])
  | object members => '\x7b' :: (separated (memberChars members) ++ ['\x7d'])

def itemChars : List JsonValue → List (List Char)
  | [] => []
  | item :: rest => item.chars :: itemChars rest

def memberChars : List (String × JsonValue) → List (List Char)
  | [] => []
  | (key, item) :: rest =>
    (stringText (.ofString key) ++ ':' :: ' ' :: item.chars) :: memberChars rest

end

def render (j : JsonValue) : String := String.ofList j.chars

/-- A key of a map as a member name: text, numbers, truth values and null have one. -/
def keyText (key : Value) : Except Fault String :=
  match key with
  | .null => .ok "null"
  | .bool b => .ok (if b then "true" else "false")
  | .int n => .ok (toString n)
  | .real x => .ok (realText x)
  | .text s => .ok s
  | _ => .error (.keyWithoutText key.typeName)

mutual

/-- A value as JSON. What JSON has no form for becomes its text. -/
def ofValue : Value → Except Fault JsonValue
  | .null => .ok null
  | .bool b => .ok (bool b)
  | .int n => .ok (int n)
  | .real x => .ok (real x)
  | .text s => .ok (ofString s)
  | .blob bytes => .ok (ofString (Value.blob bytes).toText)
  | .decimal d => .ok (ofString d.toText)
  | .list items => list <$> ofItems items
  | .map entries => object <$> ofEntries entries

def ofItems : List Value → Except Fault (List JsonValue)
  | [] => .ok []
  | v :: rest => do
    let item ← ofValue v
    let items ← ofItems rest
    pure (item :: items)

def ofEntries : List (Value × Value) → Except Fault (List (String × JsonValue))
  | [] => .ok []
  | (key, v) :: rest => do
    let key ← keyText key
    let item ← ofValue v
    let members ← ofEntries rest
    pure ((key, item) :: members)

end

end JsonValue

end TableRecords
