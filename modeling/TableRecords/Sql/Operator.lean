import TableRecords.Fault
import TableRecords.Text.Upper

/-! # Comparison operators

The operators a condition may use, in any letter case. The spelling that was given is kept.
-/

namespace TableRecords

def comparisonOperators : List String :=
  ["=", "!=", "<>", "<", ">", "<=", ">=", "LIKE", "NOT LIKE", "IS", "IS NOT"]

structure Operator where
  text : String
  listed : upperText text ∈ comparisonOperators
deriving DecidableEq

namespace Operator

instance : Repr Operator := ⟨fun operator _ => repr operator.text⟩

def ofText? (text : String) : Option Operator :=
  if h : upperText text ∈ comparisonOperators then some ⟨text, h⟩ else none

def ofValue (v : Value) : Except Fault Operator :=
  match v with
  | .text s =>
    match ofText? s with
    | some operator => .ok operator
    | none => .error (.invalidOperator v)
  | _ => .error (.invalidOperator v)

def equals : Operator := ⟨"=", by decide⟩

end Operator

end TableRecords
