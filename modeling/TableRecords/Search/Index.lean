import TableRecords.Sql.Statement

/-! # Search index

The statements that create and drop the search index of a table. The index is a table of its own,
named after the table it serves; three triggers keep it in step with every insertion, deletion and
change, and a last statement fills it from the rows that exist.
-/

namespace TableRecords

namespace SearchIndex

def name (table : Identifier) : Identifier := table.extend "_fts" (by decide)

def nameOf (table : Value) : Except Fault Identifier := name <$> Statement.tableName table

/-- The columns of an index: identifiers, at least one. -/
def columnsOf (columns : List Value) : Except Fault (List Identifier) :=
  if columns.isEmpty then .error .noIndexColumns else Identifier.ofValues "column" columns

def ofRow (row : String) (columns : List Identifier) : String :=
  ", ".intercalate (columns.map fun column => row ++ "." ++ column.text)

def entryColumns (columns : List Identifier) : String := "rowid, " ++ commaSeparated columns

def entryValues (row : String) (columns : List Identifier) : String :=
  row ++ "." ++ primaryKey.text ++ ", " ++ ofRow row columns

def addEntry (index : Identifier) (columns : List Identifier) : String :=
  "INSERT INTO " ++ index.text ++ "(" ++ entryColumns columns ++ ") VALUES (" ++
    entryValues "new" columns ++ "); "

def removeEntry (index : Identifier) (columns : List Identifier) : String :=
  "INSERT INTO " ++ index.text ++ "(" ++ index.text ++ ", " ++ entryColumns columns ++
    ") VALUES ('delete', " ++ entryValues "old" columns ++ "); "

def createTrigger (table : Identifier) (ending event body : String) : String :=
  "CREATE TRIGGER IF NOT EXISTS " ++ (name table).text ++ ending ++ " AFTER " ++ event ++ " ON " ++
    table.text ++ " BEGIN " ++ body ++ "END"

def createIndex (table : Identifier) (columns : List Identifier) : String :=
  "CREATE VIRTUAL TABLE IF NOT EXISTS " ++ (name table).text ++ " USING fts5(" ++
    commaSeparated columns ++ ", content='" ++ table.text ++ "', content_rowid='" ++
    primaryKey.text ++ "')"

/-- The statements that create an index, its triggers, and fill it. -/
def creation (table : Identifier) (columns : List Identifier) : List Statement :=
  let index := name table
  [⟨createIndex table columns, []⟩,
    ⟨createTrigger table "_ai" "INSERT" (addEntry index columns), []⟩,
    ⟨createTrigger table "_ad" "DELETE" (removeEntry index columns), []⟩,
    ⟨createTrigger table "_au" "UPDATE" (removeEntry index columns ++ addEntry index columns), []⟩,
    ⟨"INSERT INTO " ++ index.text ++ "(" ++ index.text ++ ") VALUES ('rebuild')", []⟩]

def removal (table : Identifier) : List Statement :=
  let index := (name table).text
  [⟨"DROP TRIGGER IF EXISTS " ++ index ++ "_ai", []⟩,
    ⟨"DROP TRIGGER IF EXISTS " ++ index ++ "_ad", []⟩,
    ⟨"DROP TRIGGER IF EXISTS " ++ index ++ "_au", []⟩,
    ⟨"DROP TABLE IF EXISTS " ++ index, []⟩]

/-- The creation of an index whose names are still to be checked, the table first. -/
def creationOf (table : Value) (columns : List Value) : Except Fault (List Statement) := do
  let table ← Statement.tableName table
  let columns ← columnsOf columns
  pure (creation table columns)

def removalOf (table : Value) : Except Fault (List Statement) :=
  removal <$> Statement.tableName table

end SearchIndex

end TableRecords
