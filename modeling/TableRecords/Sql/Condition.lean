import TableRecords.Sql.Identifier
import TableRecords.Sql.Literal
import TableRecords.Sql.Operator

/-! # Conditions

A condition compares one column with one value. Its key is the column alone, which means equality,
or the column, one space and an operator. Conditions are joined by `AND` in the order given.
-/

namespace TableRecords

structure Condition where
  column : Identifier
  operator : Operator
  value : Value
deriving Repr

namespace Condition

/-- The column and the operator of a condition key. The column is checked first. -/
def parseKey (key : Value) : Except Fault (Identifier × Operator) :=
  match key with
  | .text s =>
    match s.toList.span (· != ' ') with
    | (column, _ :: operator) => do
      let column ← Identifier.ofValue "column" (.text (String.ofList column))
      let operator ← Operator.ofValue (.text (String.ofList operator))
      pure (column, operator)
    | (_, []) => do
      let column ← Identifier.ofValue "column" key
      pure (column, Operator.equals)
  | _ => do
    let column ← Identifier.ofValue "column" key
    pure (column, Operator.equals)

def ofEntry (entry : Value × Value) : Except Fault Condition := do
  let (column, operator) ← parseKey entry.1
  pure ⟨column, operator, entry.2⟩

/-- The conditions of a mapping, up to the first bad key. -/
def ofPairs (conditions : Pairs) : Except Fault (List Condition) := conditions.mapM ofEntry

def text (condition : Condition) : String :=
  condition.column.text ++ " " ++ condition.operator.text ++ " " ++ quote condition.value

def joined (conditions : List Condition) : String :=
  " AND ".intercalate (conditions.map text)

/-- The clause that selects by conditions, with a leading space; none for no conditions. -/
def whereClause (conditions : List Condition) : String :=
  if conditions.isEmpty then "" else " WHERE " ++ joined conditions

end Condition

def buildWhere (conditions : Pairs) : Except Fault String :=
  Condition.joined <$> Condition.ofPairs conditions

end TableRecords
