import TableRecords.Sql.Condition
import TableRecords.Value.Integer

/-! # Statements

The text of a statement and the values bound to its placeholders. Every name is checked before it
becomes part of the text, the table first; values are bound, except those of conditions, which are
written as literals.
-/

namespace TableRecords

/-- SQL text, and the values of its placeholders in order. -/
structure Statement where
  sql : String
  params : List Value := []
deriving Repr, Inhabited

/-- A mapping that an operation cannot do without, as it needs the given member of it. -/
def requiredPairs (member : String) : Option Pairs → Except Fault Pairs
  | some pairs => .ok pairs
  | none => .error (.noMember Value.null.typeName member)

structure Assignment where
  column : Identifier
  value : Value
deriving Repr

namespace Assignment

def ofPairs (attrs : Pairs) : Except Fault (List Assignment) :=
  attrs.mapM fun entry => do
    let column ← Identifier.ofValue "column" entry.1
    pure ⟨column, entry.2⟩

def ofRequired (attrs : Option Pairs) : Except Fault (List Assignment) := do
  let attrs ← requiredPairs "keys" attrs
  ofPairs attrs

def params (assignments : List Assignment) : List Value :=
  assignments.map fun a => bindable a.value

def setClause (assignments : List Assignment) : String :=
  ", ".intercalate (assignments.map fun a => a.column.text ++ " = ?")

end Assignment

def commaSeparated (names : List Identifier) : String :=
  ", ".intercalate (names.map (·.text))

namespace Statement

def tableName (table : Value) : Except Fault Identifier := Identifier.ofValue "table" table

/-- One column definition: its name must not be the primary key; its type is put in upper case. -/
def columnDefinition (table : Identifier) (entry : Value × Value) : Except Fault String := do
  let name ← Identifier.ofValue "column" entry.1
  if name = primaryKey then throw (.keyDeclared table.text)
  pure (name.text ++ " " ++ upperText entry.2.toText)

def createTable (table : Value) (schema : Option Pairs) : Except Fault Statement := do
  let table ← tableName table
  let schema ← requiredPairs "items" schema
  let definitions ← schema.mapM (columnDefinition table)
  pure ⟨"CREATE TABLE IF NOT EXISTS " ++ table.text ++ " (" ++
    ", ".intercalate ((primaryKey.text ++ " INTEGER PRIMARY KEY") :: definitions) ++ ")", []⟩

/-- Inserts one row; without values a row of defaults. -/
def insert (table : Value) (attrs : Pairs) : Except Fault Statement := do
  let table ← tableName table
  if attrs.isEmpty then pure ⟨"INSERT INTO " ++ table.text ++ " DEFAULT VALUES", []⟩
  else
    let assignments ← Assignment.ofPairs attrs
    pure ⟨"INSERT INTO " ++ table.text ++ " (" ++
        commaSeparated (assignments.map (·.column)) ++ ") VALUES (" ++
        ", ".intercalate (assignments.map fun _ => "?") ++ ")",
      Assignment.params assignments⟩

def limitClause : Option Value → Except Fault String
  | none => pure ""
  | some limit => do
    let n ← limit.toInteger
    let digits ← integerText n
    pure (" LIMIT " ++ digits)

/-- Selects rows; no columns means all of them. -/
def select (table : Value) (conditions : Pairs) (columns : List Value) (limit : Option Value) :
    Except Fault Statement := do
  let table ← tableName table
  let columns ← Identifier.ofValues "column" columns
  let conditions ← Condition.ofPairs conditions
  let limit ← limitClause limit
  pure ⟨"SELECT " ++ (if columns.isEmpty then "*" else commaSeparated columns) ++ " FROM " ++
    table.text ++ Condition.whereClause conditions ++ limit, []⟩

def selectById (table id : Value) : Except Fault Statement := do
  let table ← tableName table
  pure ⟨"SELECT * FROM " ++ table.text ++ " WHERE " ++ primaryKey.text ++ " = ?", [id]⟩

def count (table : Value) (conditions : Pairs) : Except Fault Statement := do
  let table ← tableName table
  let conditions ← Condition.ofPairs conditions
  pure ⟨"SELECT COUNT(*) FROM " ++ table.text ++ Condition.whereClause conditions, []⟩

def update (table : Value) (attrs : Option Pairs) (conditions : Pairs) :
    Except Fault Statement := do
  let table ← tableName table
  let assignments ← Assignment.ofRequired attrs
  let conditions ← Condition.ofPairs conditions
  pure ⟨"UPDATE " ++ table.text ++ " SET " ++ Assignment.setClause assignments ++
    Condition.whereClause conditions, Assignment.params assignments⟩

def updateById (table : Value) (attrs : Option Pairs) (id : Value) : Except Fault Statement := do
  let table ← tableName table
  let assignments ← Assignment.ofRequired attrs
  pure ⟨"UPDATE " ++ table.text ++ " SET " ++ Assignment.setClause assignments ++ " WHERE " ++
    primaryKey.text ++ " = ?", Assignment.params assignments ++ [id]⟩

def delete (table : Value) (conditions : Pairs) : Except Fault Statement := do
  let table ← tableName table
  let conditions ← Condition.ofPairs conditions
  pure ⟨"DELETE FROM " ++ table.text ++ Condition.whereClause conditions, []⟩

def deleteById (table id : Value) : Except Fault Statement := do
  let table ← tableName table
  pure ⟨"DELETE FROM " ++ table.text ++ " WHERE " ++ primaryKey.text ++ " = ?", [id]⟩

end Statement

end TableRecords
