import TableRecords.Search.Index
import TableRecords.Search.Options

/-! # Search queries

The statement that finds the rows of a table that match a query, best match first. Its computed
columns have a name that starts with a reserved word, so that they can be told from the columns of
the table.
-/

namespace TableRecords

def computedMark : String := "_fts_"

def rankColumn : String := computedMark ++ "rank"

def snippetColumn : String := computedMark ++ "snippet"

def highlightMark : String := computedMark ++ "hl_"

def doubleWordQuotes : List Char → List Char
  | [] => []
  | '"' :: rest => '"' :: '"' :: doubleWordQuotes rest
  | c :: rest => c :: doubleWordQuotes rest

def quotedWord (word : List Char) : String :=
  "\"" ++ String.ofList (doubleWordQuotes word) ++ "\""

def literalQuery (text : String) : String :=
  " ".intercalate ((words text.toList).map quotedWord)

namespace SearchQuery

/-- The position of a column among the columns of the index, `-1` for the best one. -/
def snippetPosition (columns : List Identifier) : Option String → Except Fault Int
  | none => .ok (-1)
  | some wanted =>
    match columns.findIdx? fun column => column.text == wanted with
    | some position => .ok position
    | none => .error (.invalidIdentifier (.text wanted) "search column")

def snippetTerm (index : Identifier) (options : SearchOptions) (position : Int) : String :=
  "snippet(" ++ index.text ++ ", " ++ toString position ++ ", " ++
    quote (.text options.openMark) ++ ", " ++ quote (.text options.closeMark) ++ ", " ++
    quote (.text options.ellipsis) ++ ", " ++ toString options.snippetTokens.val ++ ") AS " ++
    snippetColumn

def highlightTerm (index : Identifier) (options : SearchOptions) (position : Nat)
    (column : Identifier) : String :=
  "highlight(" ++ index.text ++ ", " ++ toString position ++ ", " ++
    quote (.text options.openMark) ++ ", " ++ quote (.text options.closeMark) ++ ") AS " ++
    highlightMark ++ column.text

def rankTerm (index : Identifier) : String := "bm25(" ++ index.text ++ ")"

def projection (index : Identifier) (columns : List Identifier) (options : SearchOptions)
    (snippet : Option Int) : List String :=
  ["base.*", rankTerm index ++ " AS " ++ rankColumn] ++
    (snippet.map (snippetTerm index options)).toList ++
    (if options.highlight then
      columns.mapIdx fun position column => highlightTerm index options position column
    else [])

/-- The rows that are searched: the table, or those of its rows that satisfy conditions. -/
def searched (table : Identifier) (conditions : List Condition) : String :=
  if conditions.isEmpty then table.text
  else "(SELECT * FROM " ++ table.text ++ Condition.whereClause conditions ++ ")"

def matchText (query : String) (options : SearchOptions) : String :=
  if options.literal then literalQuery query else query

def text (table : Identifier) (columns : List Identifier) (query : String)
    (options : SearchOptions) (snippet : Option Int) (conditions : List Condition) : String :=
  let index := SearchIndex.name table
  "SELECT " ++ ", ".intercalate (projection index columns options snippet) ++ " FROM " ++
    index.text ++ " JOIN " ++ searched table conditions ++ " AS base ON base." ++
    primaryKey.text ++ " = " ++ index.text ++ ".rowid WHERE " ++ index.text ++ " MATCH '" ++
    escapeText (.text (matchText query options)) ++ "' ORDER BY " ++ rankTerm index ++
    " LIMIT ? OFFSET ?"

/-- The statement that finds at most `limit` hits. The table is checked first, then the columns,
the column of the excerpt if there is to be one, and the conditions. -/
def statement (table : Value) (columns : List Value) (query : String) (options : SearchOptions)
    (limit : Value) : Except Fault Statement := do
  let table ← Statement.tableName table
  let columns ← SearchIndex.columnsOf columns
  let snippet ←
    if options.snippet then some <$> snippetPosition columns options.snippetColumn else pure none
  let conditions ← Condition.ofPairs options.conditionPairs
  pure ⟨text table columns query options snippet conditions, [limit, .int options.offset.val]⟩

end SearchQuery

end TableRecords
