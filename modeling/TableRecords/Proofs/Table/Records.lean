import Mathlib
import TableRecords.Proofs.Outcome
import TableRecords.Proofs.Table.Refusals

/-! # Records of a table

A table that was accepted has no column that could be taken for the primary key or for a computed
column. So the records made of its rows have the columns of the table as their fields, those made of
search hits too, once the computed columns are split off.
-/

namespace TableRecords

variable {σ : Type}

namespace Table

/-- Whether no column of a table is the primary key, and none looks like a computed column. -/
def Sound (table : Table) : Prop :=
  ∀ column ∈ table.schemaColumns, column ≠ primaryKey ∧ Annotations.isComputed column.text = false

theorem checkColumn_ok {table column : Identifier} {u : Unit}
    (h : checkColumn table column = .ok u) : Annotations.isComputed column.text = false := by
  unfold checkColumn at h
  split at h
  · cases h
  · split at h
    · cases h
    · rename_i hcomputed
      simpa using hcomputed

theorem schemaOf_ok {name : Identifier} {schema : Pairs} {columns : List (Identifier × Value)}
    (h : schemaOf name schema = .ok columns) {column : Identifier × Value} (hc : column ∈ columns) :
    checkColumn name column.1 = .ok () ∧ ∃ entry ∈ schema, entry.1 = column.1.toValue := by
  obtain ⟨entry, hm, hentry⟩ := Outcome.mem_of_mapM h hc
  obtain ⟨identifier, hid, hentry⟩ := Outcome.bind_eq_ok.1 hentry
  obtain ⟨_, hcheck, hentry⟩ := Outcome.bind_eq_ok.1 hentry
  cases hentry
  exact ⟨hcheck, entry, hm, Identifier.ofValue_eq_ok.1 hid⟩

theorem columnDefinition_ok {table : Identifier} {entry : Value × Value} {definition : String}
    (h : Statement.columnDefinition table entry = .ok definition) :
    entry.1 ≠ primaryKey.toValue := by
  intro hkey
  obtain ⟨identifier, hid, h⟩ := Outcome.bind_eq_ok.1 h
  have hname : identifier = primaryKey := by
    rw [hkey, Identifier.ofValue_eq_ok.2 (show primaryKey.toValue = .text primaryKey.text from rfl)]
      at hid
    exact (Except.ok.inj hid).symm
  rw [if_pos hname] at h
  cases h

theorem createTable_ok {name : Value} {schema : Option Pairs} {statement : Statement}
    (h : Statement.createTable name schema = .ok statement) {entry : Value × Value}
    (hm : entry ∈ schema.getD []) : entry.1 ≠ primaryKey.toValue := by
  obtain ⟨_, -, h⟩ := Outcome.bind_eq_ok.1 h
  cases schema with
  | none => cases hm
  | some schema =>
      obtain ⟨_, hschema, h⟩ := Outcome.bind_eq_ok.1 h
      cases hschema
      obtain ⟨definitions, hdefinitions, -⟩ := Outcome.bind_eq_ok.1 h
      obtain ⟨definition, -, hdefinition⟩ := Outcome.ok_of_mem hdefinitions hm
      exact columnDefinition_ok hdefinition

open Database (NeverRefuses)

theorem yields_define (db : Database σ) (name : Value) (schema : Option Pairs) :
    db.Yields (define (db.recording Unit) name schema) (define db name schema)
      fun _ table => ∃ identifier columns statement,
        Statement.createTable name schema = .ok statement ∧
        schemaOf identifier (schema.getD []) = .ok columns ∧
        table = ⟨identifier, columns, none⟩ := by
  refine .ofExcept_bind fun identifier _ => .ofExcept_bind fun statement hs =>
    .ofExcept_bind fun columns hc => ?_
  refine (NeverRefuses.hasTable name).yields.bind fun _ found _ =>
    (NeverRefuses.execute statement).yields.bind fun _ _ _ => ?_
  split
  · exact .log_bind _ (.pure ⟨identifier, columns, statement, hs, hc, rfl⟩)
  · exact .pure ⟨identifier, columns, statement, hs, hc, rfl⟩

theorem sound_define (db : Database σ) (name : Value) (schema : Option Pairs) :
    db.Yields (define (db.recording Unit) name schema) (define db name schema)
      fun _ table => table.Sound := by
  refine (yields_define db name schema).imp fun _ _ hdefined table htable column hm => ?_
  obtain ⟨identifier, columns, statement, hs, hc, rfl⟩ := hdefined table htable
  obtain ⟨entry, hentry, rfl⟩ := List.mem_map.1 hm
  obtain ⟨hcheck, given, hgiven, hkey⟩ := schemaOf_ok hc hentry
  refine ⟨fun hprimary => ?_, checkColumn_ok hcheck⟩
  exact createTable_ok hs hgiven (by rw [hkey, hprimary])

/-- Making a table searchable leaves its schema as it is. -/
theorem schema_searchable (table : Table) (db : Database σ) (columns : List Value) :
    db.Yields (table.searchable (db.recording Unit) columns) (table.searchable db columns)
      fun _ next => next.schema = table.schema := by
  rw [searchable_eq, searchable_eq]
  refine .ofExcept_bind fun columns _ => ?_
  refine table.neverRefuses_indexedColumns.yields.bind fun _ found _ => ?_
  split
  · exact (table.neverRefuses_rebuildIndex columns).transaction.yields.bind fun _ _ _ =>
      .log_bind _ (.pure rfl)
  · exact .pure rfl

theorem sound_searchable {table : Table} (h : table.Sound) (db : Database σ)
    (columns : List Value) :
    db.Yields (table.searchable (db.recording Unit) columns) (table.searchable db columns)
      fun _ next => next.Sound := by
  refine (table.schema_searchable db columns).imp fun _ _ hschema next hnext column hm => ?_
  rw [schemaColumns, hschema next hnext] at hm
  exact h column hm

end Table

theorem Identifier.ofValue_toValue (context : String) (name : Identifier) :
    Identifier.ofValue context name.toValue = .ok name := Identifier.ofValue_eq_ok.2 rfl

theorem Record.ofRow_ok {table : Value} {fields : Fields} {annotations : Option Annotations}
    {record : Record} (h : ofRow table fields annotations = .ok record) :
    record.table = table ∧ record.fields = fields := by
  unfold ofRow at h
  split at h
  · cases h
    exact ⟨rfl, rfl⟩
  · cases h

namespace Table

open Database (NeverRefuses)

/-- Whether a row has the columns of a table, and no others. -/
def IsRow (table : Table) (row : Fields) : Prop :=
  ∀ key, key ∈ row.keys ↔ key ∈ table.columns.map (·.toValue)

/-- Whether a record is named after a table and has its columns as fields. -/
structure Owns (table : Table) (record : Record) : Prop where
  named : record.table = table.name.toValue
  keys : ∀ key, key ∈ record.fields.keys ↔ key ∈ table.columns.map (·.toValue)

def Selects (table : Table) (statement : Statement) : Prop :=
  ∃ rest, statement.sql = "SELECT * FROM " ++ table.name.text ++ rest

theorem selects_select {table : Table} {conditions : Pairs} {limit : Option Value}
    {statement : Statement}
    (h : Statement.select table.name.toValue conditions [] limit = .ok statement) :
    table.Selects statement := by
  obtain ⟨name, hname, h⟩ := Outcome.bind_eq_ok.1 h
  obtain ⟨columns, hcolumns, h⟩ := Outcome.bind_eq_ok.1 h
  obtain ⟨conditions, -, h⟩ := Outcome.bind_eq_ok.1 h
  obtain ⟨limit, -, h⟩ := Outcome.bind_eq_ok.1 h
  rw [Statement.tableName, Identifier.ofValue_toValue] at hname
  cases hname
  cases hcolumns
  cases h
  exact ⟨Condition.whereClause conditions ++ limit, by simp [String.append_assoc]⟩

theorem selects_selectById {table : Table} {id : Value} {statement : Statement}
    (h : Statement.selectById table.name.toValue id = .ok statement) : table.Selects statement := by
  obtain ⟨name, hname, h⟩ := Outcome.bind_eq_ok.1 h
  rw [Statement.tableName, Identifier.ofValue_toValue] at hname
  cases hname
  cases h
  exact ⟨" WHERE " ++ primaryKey.text ++ " = ?", by simp [String.append_assoc]⟩

/-- Whether a record was made of a row that was answered to a selection. -/
def MadeOf (table : Table) (sent : List Sending) (record : Record) : Prop :=
  ∃ sending ∈ sent, table.Selects sending.statement ∧ ∃ reply row, sending.outcome = .ok reply ∧
    row ∈ reply.rows ∧ Record.ofRow table.name.toValue row none = .ok record

theorem MadeOf.mono {table : Table} {sent more : List Sending} {record : Record}
    (h : table.MadeOf more record) : table.MadeOf (sent ++ more) record := by
  obtain ⟨sending, hm, hmade⟩ := h
  exact ⟨sending, List.mem_append_right _ hm, hmade⟩

variable {db : Database σ} (table : Table) {statement : Except Fault Statement}

theorem yields_records (hs : ∀ made, statement = .ok made → table.Selects made) :
    db.Yields (table.records (db.recording Unit) statement) (table.records db statement)
      fun sent records => ∀ record ∈ records, table.MadeOf sent record := by
  refine .ofExcept_bind fun made hmade' => (db.asks_query made).yields.bind ?_
  rintro sent rows ⟨sending, reply, rfl, hstatement, hanswer, rfl⟩
  unfold wrap
  rw [Action.mapM_ofExcept, Action.mapM_ofExcept]
  refine .ofExcept fun records hrecords record hm => ?_
  obtain ⟨row, hrow, hmade⟩ := Outcome.mem_of_mapM hrecords hm
  exact ⟨sending, by simp, hstatement ▸ hs made hmade', reply, row, hanswer, hrow, hmade⟩

theorem yields_firstRecord (hs : ∀ made, statement = .ok made → table.Selects made) :
    db.Yields (table.firstRecord (db.recording Unit) statement) (table.firstRecord db statement)
      fun sent found => ∀ record, found = some record → table.MadeOf sent record := by
  refine .ofExcept_bind fun made hmade' => (db.asks_queryRow made).yields.bind ?_
  rintro sent row ⟨sending, reply, rfl, hstatement, hanswer, rfl⟩
  cases hrow : reply.rows.head? with
  | none => exact .pure fun record h => by cases h
  | some row =>
      have hwrap : db.Yields (table.wrap row) (table.wrap row) fun sent record =>
          sent = [] ∧ Record.ofRow table.name.toValue row none = .ok record :=
        .ofExcept fun record h => ⟨rfl, h⟩
      refine hwrap.bind ?_
      rintro _ record ⟨rfl, hmade⟩
      refine .pure fun other hother => ?_
      cases hother
      exact ⟨sending, by simp, hstatement ▸ hs made hmade', reply, row, hanswer,
        List.mem_of_mem_head? hrow, hmade⟩

theorem yields_insert (attrs : Pairs) :
    db.Yields (table.insert (db.recording Unit) attrs) (table.insert db attrs)
      fun sent record => table.MadeOf sent record := by
  refine .ofExcept_bind fun made _ => (NeverRefuses.execute made).yields.bind fun _ _ _ =>
    (NeverRefuses.queryScalar _).yields.bind fun _ id _ =>
    (table.yields_firstRecord fun _ => selects_selectById).bind fun _ found hfound => ?_
  cases found with
  | none => exact .ofExcept fun record h => by cases h
  | some record =>
      refine .pure (MadeOf.mono (MadeOf.mono ?_))
      rw [List.append_nil]
      exact hfound record rfl

/-! ## Search hits -/

/-- The names of the computed columns that a search asks for. -/
def computedColumns (columns : List Identifier) (options : SearchOptions) : List String :=
  rankColumn :: ((if options.snippet then [snippetColumn] else []) ++
    if options.highlight then columns.map fun column => highlightMark ++ column.text else [])

/-- Whether a row has the columns of a table and the computed columns of a search, and no others. -/
def IsHit (table : Table) (columns : List Identifier) (options : SearchOptions) (row : Fields) :
    Prop :=
  ∀ key, key ∈ row.keys ↔ key ∈ table.columns.map (·.toValue) ∨
    key ∈ (computedColumns columns options).map .text

theorem isComputed_of_mem {columns : List Identifier} {options : SearchOptions} {name : String}
    (h : name ∈ computedColumns columns options) : Annotations.isComputed name = true := by
  have hmark : ∀ rest, Annotations.isComputed (computedMark ++ rest) = true := by
    intro rest
    simp [Annotations.isComputed, String.toList_append]
  simp only [computedColumns, List.mem_cons, List.mem_append] at h
  rcases h with rfl | h | h
  · exact hmark _
  · split at h
    · rw [List.mem_singleton.1 h]
      exact hmark _
    · cases h
  · split at h
    · obtain ⟨column, _, rfl⟩ := List.mem_map.1 h
      rw [highlightMark, String.append_assoc]
      exact hmark _
    · cases h

theorem mem_ownColumns_entries {row : Fields} {entry : Value × Value} :
    entry ∈ (Annotations.ownColumns row).entries ↔
      entry ∈ row.entries ∧ ∀ name, entry.1 = .text name → Annotations.isComputed name = false := by
  simp only [Annotations.ownColumns, Fields.filter, List.mem_filter]
  refine and_congr_right fun _ => ⟨fun hown name hname => ?_, fun hown => ?_⟩
  · rw [hname] at hown
    simpa using hown
  · split
    · rename_i name hname
      rw [hown name hname]
      rfl
    · rfl

theorem mem_ownColumns {row : Fields} {key : Value} :
    key ∈ (Annotations.ownColumns row).keys ↔
      key ∈ row.keys ∧ ∀ name, key = .text name → Annotations.isComputed name = false := by
  simp only [Fields.keys, List.mem_map, mem_ownColumns_entries]
  constructor
  · rintro ⟨entry, ⟨hm, hown⟩, rfl⟩
    exact ⟨⟨entry, hm, rfl⟩, hown⟩
  · rintro ⟨⟨entry, hm, rfl⟩, hown⟩
    exact ⟨entry, ⟨hm, hown⟩, rfl⟩

theorem split_ok {row fields : Fields} {annotations : Annotations}
    (h : Annotations.split (some row) = .ok (fields, annotations)) :
    fields = Annotations.ownColumns row := by
  obtain ⟨columns, -, h⟩ := Outcome.bind_eq_ok.1 h
  split at h
  · cases h
  · obtain ⟨_, -, h⟩ := Outcome.bind_eq_ok.1 h
    cases h
    rfl

theorem Sound.not_computed {table : Table} (h : table.Sound) {column : Identifier}
    (hc : column ∈ table.columns) : Annotations.isComputed column.text = false := by
  rcases List.mem_cons.1 hc with rfl | hc
  · decide
  · exact (h column hc).2

theorem owns_hit {columns : List Identifier} {options : SearchOptions} {row : Fields}
    {record : Record} (hs : table.Sound) (hr : table.IsHit columns options row)
    (h : table.wrapHit row = .ok record) : table.Owns record := by
  obtain ⟨⟨fields, annotations⟩, hsplit, h⟩ := Outcome.bind_eq_ok.1 h
  obtain ⟨hnamed, hfields⟩ := Record.ofRow_ok h
  refine ⟨hnamed, fun key => ?_⟩
  rw [hfields, split_ok hsplit, mem_ownColumns, hr key]
  -- computed columns are told by their names, which no column of a sound table has
  constructor
  · rintro ⟨hk | hk, hown⟩
    · exact hk
    · obtain ⟨name, hname, rfl⟩ := List.mem_map.1 hk
      have hcomputed := hown name rfl
      rw [isComputed_of_mem hname] at hcomputed
      cases hcomputed
  · intro hk
    refine ⟨Or.inl hk, fun name hname => ?_⟩
    obtain ⟨column, hc, rfl⟩ := List.mem_map.1 hk
    cases hname
    exact hs.not_computed hc

theorem yields_search (query : String) (argument : SearchArgument) :
    db.Yields (table.search (db.recording Unit) query argument) (table.search db query argument)
      fun sent records => ∀ record ∈ records, ∃ sending ∈ sent, ∃ reply row,
        sending.outcome = .ok reply ∧ row ∈ reply.rows ∧ table.wrapHit row = .ok record := by
  unfold search searchWith
  cases table.searchColumns with
  | none => exact .ofExcept fun records h => by cases h
  | some columns =>
      refine .ofExcept_bind fun options _ => ?_
      split
      · exact .pure fun record hm => by cases hm
      · refine .ofExcept_bind fun limit _ => .ofExcept_bind fun made _ => .log_bind _ ?_
        refine (db.asks_query made).yields.bind ?_
        rintro sent rows ⟨sending, reply, rfl, -, hanswer, rfl⟩
        refine .ofExcept fun records hrecords record hm => ?_
        obtain ⟨row, hrow, hmade⟩ := Outcome.mem_of_mapM hrecords hm
        exact ⟨sending, by simp, reply, row, hanswer, hrow, hmade⟩

/-- The tables that come of a definition, and of making a table searchable. -/
inductive Accepted (db : Database σ) : Table → Prop
  | defined {name schema s sent table s'}
      (h : db.Sends (define (db.recording Unit) name schema) (define db name schema) s sent
        (.ok table) s') : Accepted db table
  | indexed {table columns s sent next s'} (ht : Accepted db table)
      (h : db.Sends (table.searchable (db.recording Unit) columns) (table.searchable db columns) s
        sent (.ok next) s') : Accepted db next

theorem Accepted.sound {table : Table} (h : Accepted db table) : table.Sound := by
  induction h with
  | defined h => exact (sound_define db _ _).of_sends h _ rfl
  | indexed _ h ih => exact (sound_searchable ih db _).of_sends h _ rfl

/-- Whether the rows that were answered satisfy a condition, where they answer a statement of a
kind. -/
def Answered (sent : List Sending) (kind : Statement → Prop) (P : Fields → Prop) : Prop :=
  ∀ sending ∈ sent, kind sending.statement → ∀ reply, sending.outcome = .ok reply →
    ∀ row ∈ reply.rows, P row

/-- The records that the operations on a table come to, if selections of all its columns are
answered with rows that have these columns, and searches with rows that have the computed columns
besides. -/
inductive Produces (db : Database σ) (table : Table) : Record → Prop
  | inserted {attrs s sent record s'}
      (h : db.Sends (table.insert (db.recording Unit) attrs) (table.insert db attrs) s sent
        (.ok record) s')
      (hr : Answered sent table.Selects table.IsRow) : Produces db table record
  | got {id s sent record s'}
      (h : db.Sends (table.get (db.recording Unit) id) (table.get db id) s sent
        (.ok (some record)) s')
      (hr : Answered sent table.Selects table.IsRow) : Produces db table record
  | listed {s sent records record s'}
      (h : db.Sends (table.list (db.recording Unit)) (table.list db) s sent (.ok records) s')
      (hr : Answered sent table.Selects table.IsRow) (hm : record ∈ records) :
      Produces db table record
  | filtered {conditions s sent records record s'}
      (h : db.Sends (table.filter (db.recording Unit) conditions) (table.filter db conditions) s
        sent (.ok records) s')
      (hr : Answered sent table.Selects table.IsRow) (hm : record ∈ records) :
      Produces db table record
  | first {conditions s sent record s'}
      (h : db.Sends (table.first (db.recording Unit) conditions) (table.first db conditions) s sent
        (.ok (some record)) s')
      (hr : Answered sent table.Selects table.IsRow) : Produces db table record
  | found {query argument columns options s sent records record s'}
      (hc : table.searchColumns = some columns) (ho : argument.load = .ok options)
      (h : db.Sends (table.search (db.recording Unit) query argument)
        (table.search db query argument) s sent (.ok records) s')
      (hr : Answered sent (fun _ => True) (table.IsHit columns options)) (hm : record ∈ records) :
      Produces db table record

theorem MadeOf.owns {table : Table} {sent : List Sending} {record : Record}
    (h : table.MadeOf sent record) (hr : Answered sent table.Selects table.IsRow) :
    table.Owns record := by
  obtain ⟨sending, hm, hselects, reply, row, hanswer, hrow, hmade⟩ := h
  obtain ⟨hnamed, hfields⟩ := Record.ofRow_ok hmade
  exact ⟨hnamed, hfields ▸ hr sending hm hselects reply hanswer row hrow⟩

/-- A record that a sound table produced has the columns of the table. -/
theorem Produces.owns {record : Record} (h : table.Produces db record) (hs : table.Sound) :
    table.Owns record := by
  cases h with
  | inserted h hr => exact ((table.yields_insert _).of_sends h _ rfl).owns hr
  | got h hr =>
      have hmade := (table.yields_firstRecord fun _ => selects_selectById).of_sends h _ rfl
      exact (hmade record rfl).owns hr
  | listed h hr hm =>
      have hmade := (table.yields_records fun _ => selects_select).of_sends h _ rfl
      exact (hmade record hm).owns hr
  | filtered h hr hm =>
      have hmade := (table.yields_records fun _ => selects_select).of_sends h _ rfl
      exact (hmade record hm).owns hr
  | first h hr =>
      have hmade := (table.yields_firstRecord fun _ => selects_select).of_sends h _ rfl
      exact (hmade record rfl).owns hr
  | found _ _ h hr hm =>
      obtain ⟨sending, hsent, reply, row, hanswer, hrow, hmade⟩ :=
        (table.yields_search _ _).of_sends h _ rfl record hm
      exact table.owns_hit hs (hr sending hsent trivial reply hanswer row hrow) hmade

end Table

end TableRecords
