import TableRecords.Text.Hex
import TableRecords.Text.Printable

/-! # Quoted display of text and bytes

Text is displayed between single quotes, or between double quotes when it holds a single quote and
no double one. The backslash and the quote in use are escaped, and so is what cannot be printed.
-/

namespace TableRecords

def displayQuote (cs : List Char) : Char :=
  if cs.contains '\'' && !cs.contains '"' then '"' else '\''

/-- A code point as an escape of two, four or eight hexadecimal digits, whichever first fits. -/
def escapeCode (n : Nat) : List Char :=
  if n ≤ 0xFF then '\\' :: 'x' :: hexDigits 2 n
  else if n ≤ 0xFFFF then '\\' :: 'u' :: hexDigits 4 n
  else '\\' :: 'U' :: hexDigits 8 n

def displayChar (quote c : Char) : List Char :=
  if c == quote || c == '\\' then ['\\', c]
  else if c == '\n' then ['\\', 'n']
  else if c == '\r' then ['\\', 'r']
  else if c == '\t' then ['\\', 't']
  else if isPrintable c then [c]
  else escapeCode c.toNat

def displayText (text : String) : String :=
  let cs := text.toList
  let quote := displayQuote cs
  String.ofList (quote :: (cs.flatMap (displayChar quote) ++ [quote]))

def displayByte (quote : Char) (b : UInt8) : List Char :=
  let c := Char.ofNat b.toNat
  if b < 0x80 && (0x20 ≤ b || b == 0x09 || b == 0x0A || b == 0x0D) then displayChar quote c
  else escapeCode b.toNat

def displayBytes (bytes : List UInt8) : String :=
  let quote := displayQuote (bytes.map fun b => Char.ofNat b.toNat)
  String.ofList ('b' :: quote :: (bytes.flatMap (displayByte quote) ++ [quote]))

def asciiOnly (text : String) : String :=
  String.ofList (text.toList.flatMap fun c => if c.toNat < 0x80 then [c] else escapeCode c.toNat)

end TableRecords
