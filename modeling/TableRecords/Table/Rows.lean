import TableRecords.Table.Basic

/-! # Rows of a table

Creating, finding, changing and deleting the rows of a table. Rows are selected by conditions; no
conditions select all of them.
-/

namespace TableRecords

namespace Table

variable {σ α : Type}

def wrap (table : Table) (row : Fields) : Action σ Record :=
  Action.ofExcept (Record.ofRow table.name.toValue row none)

def records (db : Database σ) (table : Table) (statement : Except Fault Statement) :
    Action σ (List Record) := do
  let statement ← Action.ofExcept statement
  let rows ← db.query statement
  rows.mapM table.wrap

def firstRecord (db : Database σ) (table : Table) (statement : Except Fault Statement) :
    Action σ (Option Record) := do
  let statement ← Action.ofExcept statement
  match ← db.queryRow statement with
  | none => pure none
  | some row => some <$> table.wrap row

def get (db : Database σ) (table : Table) (id : Value) : Action σ (Option Record) :=
  table.firstRecord db (Statement.selectById table.name.toValue id)

def insert (db : Database σ) (table : Table) (attrs : Pairs) : Action σ Record := do
  let statement ← Action.ofExcept (Statement.insert table.name.toValue attrs)
  let _ ← db.execute statement
  let id ← db.lastInsertId
  match ← table.get db id with
  | some record => pure record
  | none => throw (.insertLost id table.name.text)

def list (db : Database σ) (table : Table) : Action σ (List Record) :=
  table.records db (Statement.select table.name.toValue [] [] none)

def filter (db : Database σ) (table : Table) (conditions : Pairs) : Action σ (List Record) :=
  table.records db (Statement.select table.name.toValue conditions [] none)

def first (db : Database σ) (table : Table) (conditions : Pairs) : Action σ (Option Record) :=
  table.firstRecord db (Statement.select table.name.toValue conditions [] (some (.int 1)))

def tally (db : Database σ) (table : Table) (conditions : Pairs) : Action σ Int := do
  let statement ← Action.ofExcept (Statement.count table.name.toValue conditions)
  let counted ← db.queryScalar statement
  if counted.isTruthy then Action.ofExcept counted.toInteger else pure 0

def exists? (db : Database σ) (table : Table) (conditions : Pairs) : Action σ Bool := do
  let counted ← table.tally db conditions
  pure (0 < counted)

def columnOf (column : Identifier) (row : Fields) : Except Fault Value :=
  match row.get? column.toValue with
  | some v => .ok v
  | none => .error (.missingKey column.toValue)

def pluck (db : Database σ) (table : Table) (column : Value) : Action σ (List Value) := do
  let statement ← Action.ofExcept (Statement.select table.name.toValue [] [column] none)
  let column ← Action.ofExcept (Identifier.ofValue "column" column)
  let rows ← db.query statement
  Action.ofExcept (rows.mapM (columnOf column))

def collect (db : Database σ) (table : Table) (f : Record → Action σ α) : Action σ (List α) := do
  let records ← table.list db
  records.mapM f

def forEach (db : Database σ) (table : Table) (f : Record → Action σ α) : Action σ Unit := do
  let _ ← table.collect db f

def change (db : Database σ) (table : Table) (statement : Statement) (message : String) :
    Action σ Int := do
  let affected ← db.execute statement
  Action.log (table.entry Level.debug message [("affected", .int affected)])
  pure affected

def destroy (db : Database σ) (table : Table) (conditions : Pairs) : Action σ Int := do
  let statement ← Action.ofExcept (Statement.delete table.name.toValue conditions)
  table.change db statement "Destroyed rows"

/-- Changes the rows that satisfy conditions, and counts them. Without values nothing is done. -/
def updateAll (db : Database σ) (table : Table) (conditions attrs : Pairs) : Action σ Int := do
  if attrs.isEmpty then pure 0
  else
    let statement ← Action.ofExcept (Statement.update table.name.toValue (some attrs) conditions)
    table.change db statement "Updated rows"

end Table

end TableRecords
