import TableRecords.Table.Basic

/-! # Search in a table

A table is made searchable over some of its columns; the index is built anew when it has other
columns. A search then finds the rows that match a query, best match first.
-/

namespace TableRecords

/-- The options of a search: a value still to be checked, or options made before. -/
inductive SearchArgument where
  | given (v : Value)
  | ready (options : SearchOptions)

def SearchArgument.loadWith (validate : Value → Except Fault SearchOptions) :
    SearchArgument → Except Fault SearchOptions
  | given v => SearchOptions.loadWith validate v
  | ready options => .ok options

def SearchArgument.load (argument : SearchArgument) : Except Fault SearchOptions :=
  argument.loadWith SearchOptions.validate

namespace Table

variable {σ : Type}

def checkSearchColumn (table : Table) (column : Identifier) : Except Fault Unit :=
  if table.schemaColumns.contains column then .ok ()
  else .error (.invalidIdentifier column.toValue ("column of " ++ table.name.text))

/-- The columns of an index to be: first all must be identifiers, then all columns of the table. -/
def searchColumnsOf (table : Table) (columns : List Value) : Except Fault (List Identifier) := do
  let columns ← Identifier.ofValues "column" columns
  columns.forM table.checkSearchColumn
  pure columns

def indexInfo (table : Table) : Statement :=
  ⟨"PRAGMA table_info(" ++ (SearchIndex.name table.name).text ++ ")", []⟩

def indexedColumn (row : Fields) : Except Fault Value :=
  match row.get? (.text "name") with
  | some v => .ok v
  | none => .error (.missingKey (.text "name"))

def indexedColumns (db : Database σ) (table : Table) : Action σ (List Value) := do
  let rows ← db.query table.indexInfo
  Action.ofExcept (rows.mapM indexedColumn)

def namesColumns : List Value → List Identifier → Bool
  | [], [] => true
  | v :: rest, column :: columns => v.same column.toValue && namesColumns rest columns
  | _, _ => false

def rebuildIndex (db : Database σ) (table : Table) (columns : List Identifier) :
    Action σ Unit := do
  let creation ← Action.ofExcept
    (SearchIndex.creationOf table.name.toValue (columns.map (·.toValue)))
  db.executeAll (SearchIndex.removal table.name ++ creation)

/-- Makes the table searchable over columns. An index that has them already is kept. -/
def makeSearchable (db : Database σ) (columns : List Value) : InPlace Table σ Unit := do
  let table ← InPlace.held
  let columns ← Action.ofExcept (table.searchColumnsOf columns)
  let found ← InPlace.onStore (table.indexedColumns db)
  if !namesColumns found columns then
    InPlace.onStore (db.transaction (table.rebuildIndex db columns))
    Action.log (table.entry Level.info "Built search index" [("columns", namesValue columns)])
  InPlace.assign { table with searchColumns := some columns }

def searchable (db : Database σ) (table : Table) (columns : List Value) : Action σ Table := do
  let (_, table) ← (makeSearchable db columns).value table
  pure table

/-- The number of hits asked for, or else that of the settings in force. -/
def hitLimit (db : Database σ) (options : SearchOptions) : Except Fault (AtLeast 1) :=
  match options.limit with
  | some limit => .ok limit
  | none => (·.searchLimit) <$> db.settings

def wrapHit (table : Table) (row : Fields) : Except Fault Record := do
  let (fields, annotations) ← Annotations.split (some row)
  Record.ofRow table.name.toValue fields (some annotations)

/-- The records that match a query, best match first. A query without words finds nothing. -/
def searchWith (validate : Value → Except Fault SearchOptions) (db : Database σ) (table : Table)
    (query : String) (argument : SearchArgument) : Action σ (List Record) := do
  match table.searchColumns with
  | none => throw (.searchNotEnabled table.name.text)
  | some columns =>
    let options ← Action.ofExcept (argument.loadWith validate)
    if isBlankText query then pure []
    else
      let limit ← Action.ofExcept (hitLimit db options)
      let statement ← Action.ofExcept (SearchQuery.statement table.name.toValue
        (columns.map (·.toValue)) query options (.int limit.val))
      Action.log (table.entry Level.debug "Searching"
        [("query", .text query), ("limit", .int limit.val)])
      let rows ← db.query statement
      Action.ofExcept (rows.mapM table.wrapHit)

def search (db : Database σ) (table : Table) (query : String) (argument : SearchArgument) :
    Action σ (List Record) := table.searchWith SearchOptions.validate db query argument

end Table

end TableRecords
