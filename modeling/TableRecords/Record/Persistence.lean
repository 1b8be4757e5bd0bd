import TableRecords.Record.Basic
import TableRecords.Store.Database

/-! # Persistence of records

A record writes its fields back to its row, deletes the row, or takes over what the row holds now.
After its row was deleted it does none of these.
-/

namespace TableRecords

namespace Record

variable {σ : Type}

def note (record : Record) (message : String) (extras : List (String × Value)) : Action σ Unit :=
  Action.log
    { logger := recordModule, level := Level.debug, message := .text message,
      extras := named ([("table", record.table), ("id", record.id)] ++ extras) }

def ensureAlive (record : Record) (action : String) : Except Fault Unit :=
  if record.deleted then .error (.recordDeleted action record.table record.id) else .ok ()

def updateStatement (record : Record) : Except Fault Statement :=
  Statement.updateById record.table (some record.persisted.entries) record.id

/-- Writes the fields back, if there are any besides the primary key. -/
def save (db : Database σ) (record : Record) : Action σ Unit := do
  Action.ofExcept (record.ensureAlive "save")
  if record.persisted.entries.isEmpty then pure ()
  else
    let statement ← Action.ofExcept record.updateStatement
    let affected ← db.execute statement
    record.note "Saved record" [("affected", .int affected)]

/-- Deletes the row, and marks the record once that is done. -/
def deleteRow (db : Database σ) : InPlace Record σ Unit := do
  let record ← InPlace.held
  Action.ofExcept (record.ensureAlive "delete")
  let statement ← Action.ofExcept (Statement.deleteById record.table record.id)
  let _ ← InPlace.onStore (db.execute statement)
  InPlace.assign { record with deleted := true }
  record.note "Deleted record" []

/-- Takes over the columns of the row; tells whether there is one. -/
def reloadRow (db : Database σ) : InPlace Record σ Bool := do
  let record ← InPlace.held
  Action.ofExcept (record.ensureAlive "reload")
  let statement ← Action.ofExcept (Statement.selectById record.table record.id)
  match ← InPlace.onStore (db.queryRow statement) with
  | none => pure false
  | some row =>
    InPlace.assign (record.refresh row)
    pure true

def delete (db : Database σ) (record : Record) : Action σ Record := do
  let (_, record) ← (deleteRow db).value record
  pure record

def reload (db : Database σ) (record : Record) : Action σ (Record × Bool) := do
  let (found, record) ← (reloadRow db).value record
  pure (record, found)

end Record

end TableRecords
