import TableRecords.Record.Names
import TableRecords.Search.Hit
import TableRecords.Store.InPlace
import TableRecords.Value.Equality

/-! # Records

A record is a copy of one row of a table. Its fields are read and assigned as attributes or as
items; both reach the same fields, except where a record has an attribute of its own. The primary
key cannot be assigned, nor can a field be added.
-/

namespace TableRecords

/-- A copy of a row. It has a primary key; annotations tell what a search found out about it. -/
structure Record where
  table : Value
  fields : Fields
  keyed : fields.has primaryKey.toValue = true
  annotations : Option Annotations := none
  deleted : Bool := false

inductive Attribute where
  | value (v : Value)
  | annotations (found : Option Annotations)
  | members (entries : List (String × Attribute))
  | operation

namespace Attribute

def constantTypes : Attribute :=
  .value (.map [(.text "RESERVED", .text "FrozenSet[str]"),
    (.text "INTERNAL", .text "FrozenSet[str]")])

def common? (name : String) : Option Attribute :=
  match name with
  | "__module__" => some (.value (.text recordModule))
  | "__doc__" => some (.value (.text recordDocumentation))
  | "__annotations__" => some constantTypes
  | _ => if isMember name then some .operation else none

end Attribute

namespace Record

def ofRow (table : Value) (fields : Fields) (annotations : Option Annotations) :
    Except Fault Record :=
  if h : fields.has primaryKey.toValue = true then .ok ⟨table, fields, h, annotations, false⟩
  else .error (.rowWithoutKey table)

/-- The record of fields written down; without any there is nothing to look the key up in. -/
def ofPairs (table : Value) (fields : Option Pairs) : Except Fault Record :=
  match fields with
  | some entries => ofRow table (.ofPairs entries) none
  | none => .error (.withoutItems Value.null.typeName)

def id (record : Record) : Value := (record.fields.get? primaryKey.toValue).getD .null

def persisted (record : Record) : Fields :=
  record.fields.filter fun entry => !entry.1.same primaryKey.toValue

def properties (record : Record) : List (String × Attribute) :=
  [("id", .value record.id), ("table", .value record.table),
    ("annotations", .annotations record.annotations), ("is_deleted", .value (.bool record.deleted))]

def state (record : Record) : List (String × Attribute) :=
  [("_db", .operation), ("_table", .value record.table), ("_fields", .value record.fields.toValue),
    ("_annotations", .annotations record.annotations), ("_deleted", .value (.bool record.deleted))]

/-- The properties and the inner state, the latter also as a whole. -/
def ownAttributes (record : Record) : List (String × Attribute) :=
  record.properties ++ record.state ++ [("__dict__", .members record.state)]

def ownAttribute? (record : Record) (name : String) : Option Attribute :=
  record.ownAttributes.lookup name <|> Attribute.common? name

/-- The attribute of a name: one of the record's own, or else a field. -/
def getAttribute (record : Record) (name : String) : Except Fault Attribute :=
  match record.ownAttribute? name with
  | some own => .ok own
  | none =>
    match record.fields.get? (.text name) with
    | some v => .ok (.value v)
    | none => .error (.noField record.table name)

def propertyNames : List String := ["id", "table", "annotations", "is_deleted"]

/-- The attribute of a record that was never made from a row: it has no state and no fields. -/
def attributeOfNone (name : String) : Except Fault Attribute :=
  if propertyNames.contains name then .error (.noField .null name)
  else if name == "__dict__" then .ok (.members [])
  else
    match Attribute.common? name with
    | some common => .ok common
    | none => .error (.noField .null name)

def item? (record : Record) (key : Value) : Except Fault (Option Value) := do
  key.checkKey
  pure (record.fields.get? key)

def item (record : Record) (key : Value) : Except Fault Value := do
  match ← record.item? key with
  | some v => pure v
  | none => throw (.missingKey key)

def contains (record : Record) (key : Value) : Except Fault Bool :=
  Option.isSome <$> record.item? key

def get (record : Record) (key default : Value) : Except Fault Value :=
  (·.getD default) <$> record.item? key

def setField (record : Record) (key v : Value) : Record :=
  { record with
    fields := record.fields.set key v
    keyed := Fields.has_set record.keyed }

section

variable {σ : Type}

def putItem (key v : Value) : InPlace Record σ Unit := do
  let record ← InPlace.held
  if key.same primaryKey.toValue then throw .keyAssigned
  match ← Action.ofExcept (record.item? key) with
  | some _ => InPlace.assign (record.setField key v)
  | none => throw (.noColumn record.table key)

def putAttribute (name : String) (v : Value) : InPlace Record σ Unit :=
  if name ≠ primaryKey.text ∧ shadowsAttribute name then throw (.attributeAssigned name)
  else putItem (.text name) v

end

def setItem (record : Record) (key v : Value) : Except Fault Record :=
  (putItem key v).changed record

def setAttribute (record : Record) (name : String) (v : Value) : Except Fault Record :=
  (putAttribute name v).changed record

def refresh (record : Record) (row : Fields) : Record :=
  { record with
    fields := record.fields.merge row
    keyed := Fields.has_merge record.keyed }

/-- Whether two records have the same table and equal fields; none when a comparison without an
outcome would decide. -/
def equal? (record other : Record) : Option Bool := do
  if ← record.table.equal? other.table then
    record.fields.toValue.equal? other.fields.toValue
  else some false

def display (record : Record) : String :=
  "Record(" ++ record.table.toText ++ (if record.deleted then " deleted " else " ") ++
    record.fields.toValue.display ++ ")"

end Record

end TableRecords
