import TableRecords.Number.Decimal
import TableRecords.Text.Quoted

/-! # Values

The dynamic values that columns, conditions and options hold. A map keeps its entries in order;
its keys are values too.
-/

namespace TableRecords

inductive Value where
  | null
  | bool (b : Bool)
  | int (n : Int)
  | real (x : Binary64)
  | text (s : String)
  | blob (bytes : List UInt8)
  | decimal (d : Decimal)
  | list (items : List Value)
  | map (entries : List (Value × Value))
deriving Repr, Inhabited

/-- An ordered mapping whose keys have not been checked to be names. -/
abbrev Pairs := List (Value × Value)

def named (entries : List (String × Value)) : Pairs :=
  entries.map fun entry => (.text entry.1, entry.2)

namespace Value

def typeName : Value → String
  | null => "NoneType"
  | bool _ => "bool"
  | int _ => "int"
  | real _ => "float"
  | text _ => "str"
  | blob _ => "bytes"
  | decimal _ => "decimal.Decimal"
  | list _ => "list"
  | map _ => "dict"

/-- Whether a value counts as present: null, false, zero and whatever is empty do not. -/
def isTruthy : Value → Bool
  | null => false
  | bool b => b
  | int n => n != 0
  | real x => !x.isZero
  | text s => !s.isEmpty
  | blob bytes => !bytes.isEmpty
  | decimal d => !d.isZero
  | list items => !items.isEmpty
  | map entries => !entries.isEmpty

mutual

def display : Value → String
  | null => "None"
  | bool b => if b then "True" else "False"
  | int n => toString n
  | real x => x.toText
  | text s => displayText s
  | blob bytes => displayBytes bytes
  | decimal d => "Decimal('" ++ d.toText ++ "')"
  | list items => "[" ++ ", ".intercalate (displayItems items) ++ "]"
  | map entries => "\x7b" ++ ", ".intercalate (displayEntries entries) ++ "\x7d"

def displayItems : List Value → List String
  | [] => []
  | v :: rest => v.display :: displayItems rest

def displayEntries : List (Value × Value) → List String
  | [] => []
  | (k, v) :: rest => (k.display ++ ": " ++ v.display) :: displayEntries rest

end

/-- The text of a value: text and decimals as they are, all else as displayed. -/
def toText : Value → String
  | text s => s
  | decimal d => d.toText
  | v => v.display

end Value

end TableRecords
