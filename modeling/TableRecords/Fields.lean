import TableRecords.Value.Key

/-! # Fields

Values by key in order, no key twice: the columns of a row, the fields of a record. A value is set
in its place; a new key comes last.
-/

namespace TableRecords

structure Fields where
  entries : Pairs
  distinct : Entries.Distinct entries

namespace Fields

instance : Repr Fields := ⟨fun fields _ => repr fields.entries⟩

def empty : Fields := ⟨[], List.Pairwise.nil⟩

def set (fields : Fields) (key v : Value) : Fields :=
  ⟨Entries.assign key v fields.entries, Entries.distinct_assign fields.distinct⟩

def setAll (fields : Fields) (entries : Pairs) : Fields :=
  entries.foldl (fun fields entry => fields.set entry.1 entry.2) fields

def merge (fields others : Fields) : Fields := fields.setAll others.entries

/-- The fields of a row whose columns are listed; of two with one key the first counts. -/
def ofColumns (columns : Pairs) : Fields := ⟨Entries.firsts columns, Entries.distinct_firsts _⟩

/-- The fields of a mapping that is written down; of two values for one key the last counts. -/
def ofPairs (entries : Pairs) : Fields := empty.setAll entries

def filter (fields : Fields) (p : Value × Value → Bool) : Fields :=
  ⟨fields.entries.filter p, fields.distinct.sublist List.filter_sublist⟩

def keys (fields : Fields) : List Value := fields.entries.map Prod.fst

def get? (fields : Fields) (key : Value) : Option Value :=
  (Entries.find? fields.entries key).map (·.2)

def has (fields : Fields) (key : Value) : Bool := fields.keys.any (·.same key)

def toValue (fields : Fields) : Value := .map fields.entries

theorem has_set {fields : Fields} {key other v : Value} (h : fields.has other = true) :
    (fields.set key v).has other = true := by
  obtain ⟨k, hk, hs⟩ := List.any_eq_true.1 h
  exact List.any_eq_true.2 ⟨k, Entries.key_mem_assign hk, hs⟩

theorem has_merge {fields others : Fields} {key : Value} (h : fields.has key = true) :
    (fields.merge others).has key = true := by
  unfold merge setAll
  generalize others.entries = entries
  induction entries generalizing fields with
  | nil => exact h
  | cons entry rest ih => exact ih (has_set h)

end Fields

end TableRecords
