import TableRecords.Record.Persistence

/-! # Tables

A table has a name, a schema, and perhaps a search index. Defining one creates it in the store,
unless the store has it already.
-/

namespace TableRecords

/-- A table: its columns without the primary key, with their types as declared, and the columns of
its search index. -/
structure Table where
  name : Identifier
  schema : List (Identifier × Value)
  searchColumns : Option (List Identifier) := none

namespace Table

variable {σ : Type}

def loggerName : String := "rowkit.model"

def entry (table : Table) (level : Int) (message : String) (extras : List (String × Value)) :
    Entry :=
  { logger := loggerName, level := level, message := .text message,
    extras := named (("table", .text table.name.text) :: extras) }

def schemaColumns (table : Table) : List Identifier := table.schema.map (·.1)

def columns (table : Table) : List Identifier := primaryKey :: table.schemaColumns

def namesValue (names : List Identifier) : Value := .list (names.map (·.toValue))

def schemaValue (table : Table) : Value :=
  .map (table.schema.map fun column => (column.1.toValue, column.2))

def display (table : Table) : String :=
  "Model(table=" ++ displayText table.name.text ++ ", columns=" ++
    (namesValue table.schemaColumns).display ++ ")"

/-- The check of a column of a schema: a record must be able to show it, and it must not look like
a computed column. -/
def checkColumn (table column : Identifier) : Except Fault Unit :=
  if shadowsAttribute column.text then .error (.shadowingColumn column.text table.text)
  else if Annotations.isComputed column.text then
    .error (.computedColumn column.text table.text computedMark)
  else .ok ()

def schemaOf (table : Identifier) (schema : Pairs) : Except Fault (List (Identifier × Value)) :=
  schema.mapM fun entry => do
    let column ← Identifier.ofValue "column" entry.1
    checkColumn table column
    pure (column, entry.2)

def setColumn (_table : Table) (_name _type : Value) : Except Fault Table := .error .fixedSchema

/-- Defines a table. Everything is checked before the store is asked for anything. -/
def define (db : Database σ) (name : Value) (schema : Option Pairs) : Action σ Table := do
  let identifier ← Action.ofExcept (Statement.tableName name)
  let statement ← Action.ofExcept (Statement.createTable name schema)
  let schema ← Action.ofExcept (schemaOf identifier (schema.getD []))
  let table : Table := { name := identifier, schema := schema }
  let exists? ← db.hasTable name
  let _ ← db.execute statement
  if !exists? then
    Action.log (table.entry Level.info "Created table"
      [("columns", namesValue table.schemaColumns)])
  pure table

end Table

end TableRecords
