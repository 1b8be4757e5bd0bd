import TableRecords.Settings
import TableRecords.Store.Basic

/-! # Databases

A database sends statements to a store and notes each in the journal. A transaction commits what a
body sends, or rolls all of it back; one inside another joins it.
-/

namespace TableRecords

/-- A store with the name it was opened under, and the settings in force or why there are none. -/
structure Database (σ : Type) where
  store : Store σ
  path : String := ":memory:"
  settings : Except Fault Settings := .ok {}

namespace Database

variable {σ α : Type}

def loggerName : String := "rowkit.infrastructure.database"

def entry (level : Int) (message : String) (extras : List (String × Value)) : Entry :=
  { logger := loggerName, level := level, message := .text message, extras := named extras }

def display (db : Database σ) : String := "Database(path=" ++ displayText db.path ++ ")"

def run (db : Database σ) (statement : Statement) : Action σ Reply := do
  Action.log (entry Level.debug "Executing statement"
    [("sql", .text statement.sql), ("param_count", .int statement.params.length)])
  ExceptT.mk fun session =>
    let (reply, state) := db.store.send session.state statement
    (reply, { session with state := state })

def execute (db : Database σ) (statement : Statement) : Action σ Int := do
  let reply ← db.run statement
  pure (max reply.affected 0)

def executeAll (db : Database σ) : List Statement → Action σ Unit
  | [] => pure ()
  | statement :: rest => do
    let _ ← db.execute statement
    db.executeAll rest

def query (db : Database σ) (statement : Statement) : Action σ (List Fields) := do
  let reply ← db.run statement
  pure reply.rows

def queryRow (db : Database σ) (statement : Statement) : Action σ (Option Fields) := do
  let reply ← db.run statement
  pure reply.rows.head?

def firstColumn (row : Fields) : Except Fault Value :=
  match row.entries with
  | [] => .error (.outOfRange "tuple")
  | entry :: _ => .ok entry.2

def queryScalar (db : Database σ) (statement : Statement) : Action σ Value := do
  match ← db.queryRow statement with
  | some row => Action.ofExcept (firstColumn row)
  | none => pure .null

def lastInsertId (db : Database σ) : Action σ Value :=
  db.queryScalar ⟨"SELECT last_insert_rowid()", []⟩

/-- Whether a value is a number above zero. A decimal that is not a number cannot be compared. -/
def isPositive (v : Value) : Except Fault Bool :=
  match v with
  | .decimal (.nan ..) => .error .undefinedComparison
  | .bool _ | .int _ | .real _ | .decimal _ =>
    .ok ((v.quantity?.map Quantity.isPositive).getD false)
  | _ => .error (.unordered v.typeName)

def tableCount (name : Value) : Statement :=
  ⟨"SELECT COUNT(*) FROM sqlite_master WHERE type = 'table' AND name = ?", [name]⟩

def hasTable (db : Database σ) (name : Value) : Action σ Bool := do
  let found ← db.queryScalar (tableCount name)
  Action.ofExcept (isPositive found)

def beginStatement : Statement := ⟨"BEGIN", []⟩

def commitStatement : Statement := ⟨"COMMIT", []⟩

def rollbackStatement : Statement := ⟨"ROLLBACK", []⟩

def inTransaction (db : Database σ) : Action σ Bool := do
  let state ← Action.state
  pure (db.store.inTransaction state)

def rollback (db : Database σ) : Action σ Unit := do
  if ← db.inTransaction then
    let _ ← db.run rollbackStatement

/-- Ends a transaction whose body failed: it is rolled back, and an ordinary fault is reported as
the cause of that. -/
def abandon (db : Database σ) (fault : Fault) : Action σ α := do
  db.rollback
  if fault.isOrdinary then
    Action.log (entry Level.warning "Transaction rolled back"
      [("error", .text fault.kind.name), ("path", .text db.path)])
    throw (.transactionFailed fault "")
  else throw fault

/-- Ends a transaction whose body succeeded. What the store refuses to commit is rolled back. -/
def commit (db : Database σ) : Action σ Unit := do
  match ← (db.run commitStatement).attempt with
  | .ok _ => pure ()
  | .error fault =>
    if fault.isStoreError then db.rollback
    throw fault

/-- Runs a body in a transaction. If one is open already the body joins it, and the outer one
decides. -/
def transaction (db : Database σ) (body : Action σ α) : Action σ α := do
  if ← db.inTransaction then body
  else
    let _ ← db.run beginStatement
    match ← body.attempt with
    | .ok a => do
      db.commit
      pure a
    | .error fault => db.abandon fault

def close (db : Database σ) : Action σ Unit := Action.modifyState db.store.close

/-- Runs a body and closes the store, whether the body succeeds or not. -/
def closingAfter (db : Database σ) (body : Action σ α) : Action σ α := do
  let outcome ← body.attempt
  db.close
  Action.ofExcept outcome

end Database

end TableRecords
