import Mathlib
import TableRecords.Proofs.Search.Declaration

/-! # Upkeep of search indexes

What the statements of an index do to it, as they are read from their text: the index holds entries,
an insertion into it adds or withdraws one or fills it anew, and its triggers run for each row that
is inserted, deleted or updated. A withdrawal of an entry that is missing is an error. The triggers
withdraw no such entry, and the index always has one entry for each row.
-/

namespace TableRecords

section Semantics

variable {V : Type}

abbrev IndexedRow (V : Type) : Type := String → V

structure IndexEntry (V : Type) where
  rowid : V
  values : List V
deriving DecidableEq, Repr

inductive RowChange (V : Type) where
  | inserted (row : IndexedRow V)
  | deleted (row : IndexedRow V)
  | updated (before after : IndexedRow V)

namespace RowChange

def event : RowChange V → String
  | inserted _ => "INSERT"
  | deleted _ => "DELETE"
  | updated .. => "UPDATE"

/-- The rows that a trigger for the change can name. -/
def row? : RowChange V → String → Option (IndexedRow V)
  | inserted row, name => if name = "new" then some row else none
  | deleted row, name => if name = "old" then some row else none
  | updated before after, name =>
    if name = "old" then some before else if name = "new" then some after else none

end RowChange

def Operand.value? (change : RowChange V) : Operand → Option V
  | literal _ => none
  | column row name => (change.row? row).map (· name)

structure KeptIndex (V : Type) where
  declaration : Declaration
  entries : List (IndexEntry V)

/-- The index of a table, if there is one, and its triggers. -/
structure IndexedTable (V : Type) where
  index : Option (KeptIndex V) := none
  triggers : List Trigger := []

/-- The entry that operands make. The first place is the key of the row; the others are columns of
the index in any order. -/
def Declaration.entryFrom? (declaration : Declaration) (change : RowChange V) (places : List String)
    (operands : List Operand) : Option (IndexEntry V) :=
  match places, operands with
  | place :: places, operand :: operands => do
    guard (place = "rowid" ∧ places.length = operands.length ∧
      ∀ name ∈ places, name ∈ declaration.columns)
    let rowid ← operand.value? change
    let values ← declaration.columns.mapM fun name =>
      ((places.zip operands).lookup name).bind (Operand.value? change)
    pure ⟨rowid, values⟩
  | _, _ => none

def Declaration.entriesOf (declaration : Declaration) (table : String)
    (rows : List (IndexedRow V)) : Option (List (IndexEntry V)) := do
  guard (declaration.options.lookup "content" = some table)
  let key ← declaration.options.lookup "content_rowid"
  pure (rows.map fun row => ⟨row key, declaration.columns.map row⟩)

namespace KeptIndex

variable [DecidableEq V]

/-- An insertion that a trigger makes. The first place is the name of the index if it is a command
to the index. -/
def apply (index : KeptIndex V) (change : RowChange V) (insertion : Insertion) :
    Option (KeptIndex V) := do
  guard (insertion.target = index.declaration.name)
  if insertion.places.head? = some index.declaration.name then
    guard (insertion.operands.head? = some (.literal "delete"))
    let entry ← index.declaration.entryFrom? change insertion.places.tail insertion.operands.tail
    guard (entry ∈ index.entries)
    pure { index with entries := index.entries.erase entry }
  else
    let entry ← index.declaration.entryFrom? change insertion.places insertion.operands
    pure { index with entries := entry :: index.entries }

def refill (index : KeptIndex V) (table : String) (rows : List (IndexedRow V))
    (insertion : Insertion) : Option (KeptIndex V) := do
  guard (insertion = ⟨index.declaration.name, [index.declaration.name], [.literal "rebuild"]⟩)
  let entries ← index.declaration.entriesOf table rows
  pure { index with entries := entries }

end KeptIndex

namespace IndexedTable

variable [DecidableEq V]

/-- What a statement does while a table holds rows. What exists is not made again. -/
def exec (table : String) (rows : List (IndexedRow V)) (kept : IndexedTable V) :
    Command → Option (IndexedTable V)
  | .declare declaration =>
    some { kept with index := kept.index.or (some ⟨declaration, []⟩) }
  | .attach trigger =>
    if kept.triggers.any (·.name = trigger.name) then some kept
    else some { kept with triggers := kept.triggers ++ [trigger] }
  | .insert insertion => do
    let index ← kept.index
    let index ← index.refill table rows insertion
    pure { kept with index := some index }

def execAll (table : String) (rows : List (IndexedRow V)) (kept : IndexedTable V)
    (statements : List Statement) : Option (IndexedTable V) :=
  statements.foldlM (fun kept statement => (readCommand statement.sql).bind (kept.exec table rows))
    kept

/-- What the triggers of a table do about a change of one of its rows. -/
def follow (table : String) (kept : IndexedTable V) (change : RowChange V) :
    Option (IndexedTable V) := do
  let fired := kept.triggers.filter fun trigger =>
    trigger.table = table && trigger.event = change.event
  let index ← kept.index
  let index ← (fired.flatMap Trigger.body).foldlM
    (fun index insertion => index.apply change insertion) index
  pure { kept with index := some index }

end IndexedTable

/-- How a change turns the rows of a table, in whatever order, into others. -/
inductive RowChange.Turns : List (IndexedRow V) → RowChange V → List (IndexedRow V) → Prop
  | inserted {rows later row} (h : later.Perm (row :: rows)) : Turns rows (.inserted row) later
  | deleted {rows later row} (h : rows.Perm (row :: later)) : Turns rows (.deleted row) later
  | updated {rows kept later before after} (h : rows.Perm (before :: kept))
      (ha : later.Perm (after :: kept)) : Turns rows (.updated before after) later

inductive RowChange.TurnsAll : List (IndexedRow V) → List (RowChange V) → List (IndexedRow V) → Prop
  | none {rows} : TurnsAll rows [] rows
  | step {rows change next changes later} (h : RowChange.Turns rows change next)
      (hs : TurnsAll next changes later) : TurnsAll rows (change :: changes) later

end Semantics

namespace SearchIndex

variable {V : Type} {table : Identifier} {columns : List Identifier}

/-- The entry of a row: its key and its values in the columns, in their order. -/
def entryOf (columns : List Identifier) (row : IndexedRow V) : IndexEntry V :=
  ⟨row primaryKey.text, columns.map fun column => row column.text⟩

theorem lookup_zip_map {α : Type} (f : String → α) {names : List String} {name : String}
    (h : name ∈ names) : (names.zip (names.map f)).lookup name = some (f name) := by
  induction names with
  | nil => cases h
  | cons first names ih =>
      by_cases heq : name = first
      · simp [heq]
      · have hrest := ih ((List.mem_cons.1 h).resolve_left heq)
        have hne : (name == first) = false := by simpa using heq
        simpa [List.lookup_cons, hne] using hrest

theorem entry_eq (table : Identifier) (columns : List Identifier) {change : RowChange V}
    {which : String} {row : IndexedRow V} (h : change.row? which = some row) :
    (declaration table columns).entryFrom? change ("rowid" :: columnNames columns)
      (entryOperands columns which) = some (entryOf columns row) := by
  have hvalue : ∀ name, Operand.value? change (.column which name) = some (row name) := by
    intro name
    rw [Operand.value?, h]
    rfl
  have hvalues : (columnNames columns).mapM (fun name =>
      (((columnNames columns).zip ((columnNames columns).map (.column which))).lookup name).bind
        (Operand.value? change)) = some ((columnNames columns).map row) :=
    mapM_eq_some_map fun name hn => by
      rw [lookup_zip_map _ hn, Option.bind_some, hvalue]
  simp only [Declaration.entryFrom?, entryOperands, List.map_cons, declaration, Declaration.serving,
    hvalue, hvalues]
  simp [entryOf, columnNames, Function.comp_def]

/-- An index that has one entry for each row of its table. -/
def Mirrors (columns : List Identifier) (rows : List (IndexedRow V)) (kept : IndexedTable V) :
    Prop :=
  ∃ index, kept.index = some index ∧ index.entries.Perm (rows.map (entryOf columns))

structure InStep (table : Identifier) (columns : List Identifier) (rows : List (IndexedRow V))
    (index : KeptIndex V) : Prop where
  declared : index.declaration = declaration table columns
  entries : index.entries.Perm (rows.map (entryOf columns))

/-- A table whose index is in step and whose triggers are those of the index. -/
structure Attended (table : Identifier) (columns : List Identifier) (rows : List (IndexedRow V))
    (kept : IndexedTable V) : Prop where
  index : ∃ index, kept.index = some index ∧ InStep table columns rows index
  triggers : kept.triggers = triggers table columns

theorem Attended.mirrors {rows : List (IndexedRow V)} {kept : IndexedTable V}
    (h : Attended table columns rows kept) : Mirrors columns rows kept := by
  obtain ⟨index, hindex, hstep⟩ := h.index
  exact ⟨index, hindex, hstep.entries⟩

variable {rows later : List (IndexedRow V)} {index : KeptIndex V}

theorem execAll_of_reads {statements : List Statement} {commands : List Command} {table : String}
    (h : statements.map (fun statement => readCommand statement.sql) = commands.map some)
    (kept : IndexedTable V) : kept.execAll table rows statements =
      commands.foldlM (fun kept command => kept.exec table rows command) kept := by
  induction statements generalizing commands kept with
  | nil =>
      rw [List.map_nil, eq_comm, List.map_eq_nil_iff] at h
      rw [h]
      rfl
  | cons statement statements ih =>
      cases commands with
      | nil => cases h
      | cons command commands =>
          obtain ⟨hfirst, hrest⟩ := List.cons.inj h
          simp only [IndexedTable.execAll, List.foldlM_cons, hfirst, Option.bind_some]
          exact bind_congr fun next => ih hrest next

theorem refill_refilling (hd : index.declaration = declaration table columns) :
    index.refill table.text rows (refilling table) =
      some { index with entries := rows.map (entryOf columns) } := by
  have hname : (declaration table columns).name = (name table).text := rfl
  have hentries : (declaration table columns).entriesOf table.text rows =
      some (rows.map (entryOf columns)) := by
    have hcontent : (declaration table columns).options.lookup "content" = some table.text := rfl
    have hkey : (declaration table columns).options.lookup "content_rowid" =
        some primaryKey.text := rfl
    have hcolumns : (declaration table columns).columns = columnNames columns := rfl
    simp [Declaration.entriesOf, hcontent, hkey, hcolumns, entryOf, columnNames, Function.comp_def]
  simp [KeptIndex.refill, refilling, hd, hname, hentries]

theorem attachAll {index : Option (KeptIndex V)} {attached triggers : List Trigger}
    (h : ((attached ++ triggers).map Trigger.name).Nodup) (table : String)
    (rows : List (IndexedRow V)) :
    (triggers.map Command.attach).foldlM
      (fun kept command => IndexedTable.exec table rows kept command) ⟨index, attached⟩ =
        some ⟨index, attached ++ triggers⟩ := by
  induction triggers generalizing attached with
  | nil => simp
  | cons trigger triggers ih =>
      have hnew : ∀ other ∈ attached, other.name ≠ trigger.name := by
        rw [List.map_append, List.map_cons, List.nodup_append] at h
        exact fun other ho => h.2.2 _ (List.mem_map_of_mem ho) _ List.mem_cons_self
      have hexec : IndexedTable.exec table rows ⟨index, attached⟩ (.attach trigger) =
          some ⟨index, attached ++ [trigger]⟩ :=
        if_neg (by simpa using hnew)
      have hassoc : attached ++ trigger :: triggers = attached ++ [trigger] ++ triggers := by simp
      rw [hassoc] at h ⊢
      rw [List.map_cons, List.foldlM_cons, hexec]
      exact ih h

/-- Creating an index fills it from the rows there are. -/
theorem attended_creation (table : Identifier) (ne : columns ≠ [])
    (rows : List (IndexedRow V)) : ∃ kept,
      IndexedTable.execAll table.text rows {} (creation table columns) = some kept ∧
        Attended table columns rows kept := by
  have hnames : (([] ++ triggers table columns).map Trigger.name).Nodup := by
    simp [triggers, trigger, String.append_right_inj]
  have hattach : ((triggers table columns).map Command.attach).foldlM
      (fun kept command => IndexedTable.exec table.text rows kept command)
      ⟨some ⟨declaration table columns, []⟩, []⟩ = some ⟨some ⟨declaration table columns, []⟩,
        triggers table columns⟩ := attachAll hnames table.text rows
  have hdeclare : IndexedTable.exec table.text rows {} (.declare (declaration table columns)) =
      some ⟨some ⟨declaration table columns, []⟩, []⟩ := rfl
  have hrefill : KeptIndex.refill ⟨declaration table columns, []⟩ table.text rows
      (refilling table) = some ⟨declaration table columns, rows.map (entryOf columns)⟩ :=
    refill_refilling rfl
  refine ⟨⟨some ⟨declaration table columns, rows.map (entryOf columns)⟩, triggers table columns⟩,
    ?_, ⟨⟨_, rfl, rfl, .refl _⟩, rfl⟩⟩
  rw [execAll_of_reads (read_creation table ne), commands, List.foldlM_append, List.foldlM_cons,
    hdeclare, Option.bind_eq_bind, Option.bind_some, hattach]
  simp [IndexedTable.exec, hrefill]

/-! ## Changes -/

variable [DecidableEq V] {change : RowChange V} {row : IndexedRow V}

theorem apply_addition (hd : index.declaration = declaration table columns)
    (h : change.row? "new" = some row) : index.apply change (addition table columns) =
      some { index with entries := entryOf columns row :: index.entries } := by
  have hentry := entry_eq table columns h
  have hne : "rowid" ≠ (name table).text := (name_ne table (by decide)).symm
  have hname : (declaration table columns).name = (name table).text := rfl
  simp [KeptIndex.apply, addition, hd, hname, hne, hentry]

theorem apply_withdrawal (hd : index.declaration = declaration table columns)
    (h : change.row? "old" = some row) (hm : entryOf columns row ∈ index.entries) :
    index.apply change (withdrawal table columns) =
      some { index with entries := index.entries.erase (entryOf columns row) } := by
  have hentry := entry_eq table columns h
  have hname : (declaration table columns).name = (name table).text := rfl
  simp [KeptIndex.apply, withdrawal, hd, hname, hentry, hm]

theorem InStep.added (h : InStep table columns rows index) (hrow : change.row? "new" = some row)
    (hl : later.Perm (row :: rows)) : ∃ index',
      index.apply change (addition table columns) = some index' ∧
        InStep table columns later index' := by
  refine ⟨_, apply_addition h.declared hrow, h.declared, ?_⟩
  exact (h.entries.cons _).trans (hl.map (entryOf columns)).symm

/-- The entry of a row that there was is not missing. -/
theorem InStep.withdrawn (h : InStep table columns rows index)
    (hrow : change.row? "old" = some row) (hl : rows.Perm (row :: later)) : ∃ index',
      index.apply change (withdrawal table columns) = some index' ∧
        InStep table columns later index' := by
  have hentries : index.entries.Perm (entryOf columns row :: later.map (entryOf columns)) :=
    h.entries.trans (hl.map _)
  have hm : entryOf columns row ∈ index.entries := hentries.symm.subset List.mem_cons_self
  refine ⟨_, apply_withdrawal h.declared hrow hm, h.declared, ?_⟩
  have herased := hentries.erase (entryOf columns row)
  rwa [List.erase_cons_head] at herased

def reaction (table : Identifier) (columns : List Identifier) : RowChange V → List Insertion
  | .inserted _ => [addition table columns]
  | .deleted _ => [withdrawal table columns]
  | .updated .. => [withdrawal table columns, addition table columns]

omit [DecidableEq V] in
theorem fired_body (table : Identifier) (columns : List Identifier) (change : RowChange V) :
    ((triggers table columns).filter fun trigger =>
      trigger.table = table.text && trigger.event = change.event).flatMap Trigger.body =
        reaction table columns change := by
  cases change with
  | inserted row => simp [triggers, trigger, RowChange.event, reaction]
  | deleted row => simp [triggers, trigger, RowChange.event, reaction]
  | updated before after => simp [triggers, trigger, RowChange.event, reaction]

theorem InStep.reacted (h : InStep table columns rows index) (ht : change.Turns rows later) :
    ∃ index', (reaction table columns change).foldlM
      (fun index insertion => index.apply change insertion) index = some index' ∧
        InStep table columns later index' := by
  cases ht with
  | @inserted _ row hl =>
      have hnew : (RowChange.inserted row).row? "new" = some row := rfl
      obtain ⟨index', happly, hadded⟩ := h.added hnew hl
      exact ⟨index', by simp [reaction, happly], hadded⟩
  | @deleted _ row hl =>
      have hold : (RowChange.deleted row).row? "old" = some row := rfl
      obtain ⟨index', happly, hwithdrawn⟩ := h.withdrawn hold hl
      exact ⟨index', by simp [reaction, happly], hwithdrawn⟩
  | @updated _ _ before after hl ha =>
      have hold : (RowChange.updated before after).row? "old" = some before := rfl
      have hnew : (RowChange.updated before after).row? "new" = some after := rfl
      -- the old entry goes before the new one comes
      obtain ⟨between, hfirst, hwithdrawn⟩ := h.withdrawn hold hl
      obtain ⟨index', hsecond, hadded⟩ := hwithdrawn.added hnew ha
      exact ⟨index', by simp [reaction, hfirst, hsecond], hadded⟩

/-- Whatever change a row undergoes, the triggers keep the index in step. -/
theorem Attended.follow {kept : IndexedTable V} (h : Attended table columns rows kept)
    (ht : change.Turns rows later) : ∃ kept',
      kept.follow table.text change = some kept' ∧ Attended table columns later kept' := by
  obtain ⟨index, hindex, hstep⟩ := h.index
  obtain ⟨index', hfold, hlater⟩ := hstep.reacted ht
  refine ⟨{ kept with index := some index' }, ?_, ⟨index', rfl, hlater⟩, h.triggers⟩
  simp [IndexedTable.follow, hindex, h.triggers, fired_body, hfold]

theorem Attended.followAll {changes : List (RowChange V)}
    (ht : RowChange.TurnsAll rows changes later) {kept : IndexedTable V}
    (h : Attended table columns rows kept) : ∃ kept',
      changes.foldlM (IndexedTable.follow table.text) kept = some kept' ∧
        Attended table columns later kept' := by
  induction ht generalizing kept with
  | none => exact ⟨kept, rfl, h⟩
  | step hone _ ih =>
      obtain ⟨next, hnext, hattended⟩ := h.follow hone
      obtain ⟨kept', hrest, hlater⟩ := ih hattended
      exact ⟨kept', by simp [hnext, hrest], hlater⟩

/-- An index is created with one entry for each row of its table, and keeps one entry for each of
them through every run of changes. No change finds the entry missing that it withdraws. -/
theorem creation_keeps_step (table : Identifier) (ne : columns ≠ []) :
    ∃ statements, creationOf table.toValue (columns.map Identifier.toValue) = .ok statements ∧
      ∀ rows : List (IndexedRow V), ∃ kept,
        IndexedTable.execAll table.text rows {} statements = some kept ∧
          Mirrors columns rows kept ∧
          ∀ changes later, RowChange.TurnsAll rows changes later → ∃ kept',
            changes.foldlM (IndexedTable.follow table.text) kept = some kept' ∧
              Mirrors columns later kept' := by
  refine ⟨_, creationOf_toValue table ne, fun rows => ?_⟩
  obtain ⟨kept, hexec, hattended⟩ := attended_creation table ne rows
  refine ⟨kept, hexec, hattended.mirrors, fun changes later ht => ?_⟩
  obtain ⟨kept', hfollow, hlater⟩ := hattended.followAll ht
  exact ⟨kept', hfollow, hlater.mirrors⟩

def noteRow (id title : String) : IndexedRow String := fun column =>
  if column = "id" then id else if column = "title" then title else ""

theorem renamed_note_keeps_step : [(⟨"title", by decide⟩ : Identifier)] ≠ [] ∧ ∃ statements kept,
    creationOf (.text "notes") [.text "title"] = .ok statements ∧
      IndexedTable.execAll "notes" [noteRow "1" "draft"] {} statements = some kept ∧ ∃ kept',
        [.updated (noteRow "1" "draft") (noteRow "2" "final"), .inserted (noteRow "1" "new")].foldlM
          (IndexedTable.follow "notes") kept = some kept' ∧
        Mirrors [⟨"title", by decide⟩] [noteRow "1" "new", noteRow "2" "final"] kept' := by
  have hne : [(⟨"title", by decide⟩ : Identifier)] ≠ [] := List.cons_ne_nil _ _
  refine ⟨hne, ?_⟩
  obtain ⟨statements, hcreation, hrows⟩ :=
    creation_keeps_step (V := String) ⟨"notes", by decide⟩ hne
  obtain ⟨kept, hexec, -, hchanges⟩ := hrows [noteRow "1" "draft"]
  have hupdated : RowChange.Turns [noteRow "1" "draft"]
      (.updated (noteRow "1" "draft") (noteRow "2" "final")) [noteRow "2" "final"] :=
    .updated (.refl _) (.refl _)
  have hinserted : RowChange.Turns [noteRow "2" "final"] (.inserted (noteRow "1" "new"))
      [noteRow "1" "new", noteRow "2" "final"] := .inserted (.refl _)
  exact ⟨statements, kept, hcreation, hexec, hchanges _ _ (.step hupdated (.step hinserted .none))⟩

end SearchIndex

end TableRecords
