import TableRecords.Coercion
import TableRecords.Search.Query

/-! # Search hits

A row found by a search holds the columns of the table and the computed ones. They are separated by
their names; the computed ones become annotations.
-/

namespace TableRecords

structure Annotations where
  rank : Binary64
  snippet : Option String
  highlights : List (String × String)
deriving Repr

namespace Annotations

def highlighted? (column : String) : Option String :=
  if highlightMark.toList.isPrefixOf column.toList then
    some (String.ofList (column.toList.drop highlightMark.length))
  else none

def isComputed (column : String) : Bool := computedMark.toList.isPrefixOf column.toList

def ownColumns (row : Fields) : Fields :=
  row.filter fun entry =>
    match entry.1 with
    | .text column => !isComputed column
    | _ => true

def namedColumns (row : Fields) : Except Fault (List (String × Value)) :=
  row.entries.mapM fun entry => (·, entry.2) <$> entry.1.nameText

def markedColumns (columns : List (String × Value)) : List (String × Value) :=
  columns.filterMap fun entry => (highlighted? entry.1).map fun column => (column, entry.2)

def marked (entry : String × Value) : Checked (String × String) :=
  (entry.1, ·) <$> Checked.located [.name "highlights", .name entry.1] entry.2.coerceText

def ofColumns (columns : List (String × Value)) (rank : Value) : Checked Annotations :=
  Annotations.mk
    <$> Checked.located [.name "rank"] rank.coerceReal
    <*> Checked.located [.name "snippet"]
      (Value.coerceOptional Value.coerceText ((columns.lookup snippetColumn).getD .null))
    <*> Checked.each marked (markedColumns columns)

/-- The table's own columns of a row, and its annotations. The names of all columns are looked at
before any value. -/
def split (row : Option Fields) : Except Fault (Fields × Annotations) := do
  match row with
  | none => throw (.noMember Value.null.typeName "items")
  | some row =>
    let columns ← namedColumns row
    match columns.lookup rankColumn with
    | none => throw (.missingKey (.text rankColumn))
    | some rank =>
      let annotations ← (ofColumns columns rank).outcome.mapError Fault.rejected
      pure (ownColumns row, annotations)

end Annotations

end TableRecords
