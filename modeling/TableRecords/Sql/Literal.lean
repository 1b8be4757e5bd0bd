import TableRecords.Problem

/-! # Literals

How a value is written into SQL text, and how it is adapted when it is bound instead. Text is
quoted with its quotes doubled; text that holds the character zero, which no statement may hold, is
spelled by its bytes.
-/

namespace TableRecords

def doubleQuotes : List Char → List Char
  | [] => []
  | '\'' :: rest => '\'' :: '\'' :: doubleQuotes rest
  | c :: rest => c :: doubleQuotes rest

/-- The text of a value with each single quote doubled, to stand between quotes. -/
def escapeText (v : Value) : String := String.ofList (doubleQuotes v.toText.toList)

/-- A value as it is bound: an integer beyond 64 bits becomes the nearest binary64 number. -/
def bindable : Value → Value
  | .int n => if fitsInt64 n then .int n else .real (.ofInt n)
  | v => v

def textLiteral (text : String) : String :=
  if '\x00' ∈ text.toList then
    "CAST(X'" ++ String.ofList ((hexChars (utf8Bytes text)).map Char.toUpper) ++ "' AS TEXT)"
  else "'" ++ String.ofList (doubleQuotes text.toList) ++ "'"

/-- A binary64 number as a literal; the infinities are numerals out of range. -/
def realLiteral (x : Binary64) : String :=
  match x with
  | .nan => "NULL"
  | .infinite negative => if negative then "-9e999" else "9e999"
  | .finite .. => x.toText

/-- A value as a literal: numbers as they are bound, truth values as one and zero, and whatever is
no scalar as the literal of its text. -/
def quote (v : Value) : String :=
  match v with
  | .null => "NULL"
  | .bool b => if b then "1" else "0"
  | .int n => if fitsInt64 n then toString n else realLiteral (.ofInt n)
  | .real x => realLiteral x
  | _ => textLiteral v.toText

end TableRecords
