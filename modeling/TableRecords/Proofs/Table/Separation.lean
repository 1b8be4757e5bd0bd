import Mathlib
import TableRecords.Proofs.Search.Targets
import TableRecords.Proofs.Sql.QueryReader
import TableRecords.Proofs.Table.Records

/-! # Separation of tables

Whatever the store answers, the operations of a table create, drop and write that table and its
index only. A table that has the name of the index is none of the others: making the first one
searchable drops it.
-/

namespace TableRecords

variable {σ α β γ : Type}

/-- Whatever the store answers, the statements that the action sends satisfy a condition. -/
def Database.SendsOnly (db : Database σ) (P : Statement → Prop)
    (noted : Action (σ × List (Event Unit)) β) (plain : Action σ β) : Prop :=
  db.Always noted plain fun sent _ => ∀ sending ∈ sent, P sending.statement

namespace Database.SendsOnly

variable {db : Database σ} {P : Statement → Prop} {noted : Action (σ × List (Event Unit)) β}
  {plain : Action σ β} {next : β → Action (σ × List (Event Unit)) γ} {next' : β → Action σ γ}
  {outcome : Except Fault β}

theorem ofExcept (outcome : Except Fault β) :
    db.SendsOnly P (Action.ofExcept outcome) (Action.ofExcept outcome) :=
  Always.ofExcept (by simp)

theorem pure (b : β) : db.SendsOnly P (Pure.pure b) (Pure.pure b) := ofExcept (.ok b)

theorem log (entry : Entry) : db.SendsOnly P (Action.log entry) (Action.log entry) :=
  Always.log entry (by simp)

theorem bind (h : db.SendsOnly P noted plain) (hn : ∀ b, db.SendsOnly P (next b) (next' b)) :
    db.SendsOnly P (noted >>= next) (plain >>= next') := by
  refine Always.bind h (fun _ _ hsent => hsent) fun sent b hsent => (hn b).imp ?_
  intro more _ hmore
  exact List.forall_mem_append.2 ⟨hsent, hmore⟩

theorem ofExcept_bind (h : ∀ b, outcome = .ok b → db.SendsOnly P (next b) (next' b)) :
    db.SendsOnly P (Action.ofExcept outcome >>= next) (Action.ofExcept outcome >>= next') :=
  Always.ofExcept_bind (fun _ _ => by simp) h

theorem run {statement : Statement} (h : P statement) :
    db.SendsOnly P ((db.recording Unit).run statement) (db.run statement) := by
  refine Always.run statement fun sending hs => ?_
  simpa [hs] using h

theorem execute {statement : Statement} (h : P statement) :
    db.SendsOnly P ((db.recording Unit).execute statement) (db.execute statement) :=
  (run h).bind fun _ => pure _

theorem query {statement : Statement} (h : P statement) :
    db.SendsOnly P ((db.recording Unit).query statement) (db.query statement) :=
  (run h).bind fun _ => pure _

theorem queryRow {statement : Statement} (h : P statement) :
    db.SendsOnly P ((db.recording Unit).queryRow statement) (db.queryRow statement) :=
  (run h).bind fun _ => pure _

theorem queryScalar {statement : Statement} (h : P statement) :
    db.SendsOnly P ((db.recording Unit).queryScalar statement) (db.queryScalar statement) := by
  refine (queryRow h).bind fun row => ?_
  cases row with
  | none => exact pure _
  | some row => exact ofExcept _

theorem executeAll {statements : List Statement} (h : ∀ statement ∈ statements, P statement) :
    db.SendsOnly P ((db.recording Unit).executeAll statements) (db.executeAll statements) := by
  induction statements with
  | nil => exact pure ()
  | cons statement rest ih =>
      obtain ⟨hfirst, hrest⟩ := List.forall_mem_cons.1 h
      exact (execute hfirst).bind fun _ => ih hrest

theorem mapM {f : α → Action (σ × List (Event Unit)) β} {f' : α → Action σ β}
    (h : ∀ a, db.SendsOnly P (f a) (f' a)) (as : List α) :
    db.SendsOnly P (as.mapM f) (as.mapM f') := by
  induction as with
  | nil => exact pure []
  | cons a as ih =>
      rw [List.mapM_cons, List.mapM_cons]
      exact (h a).bind fun b => ih.bind fun bs => pure _

theorem transaction {noted : Action (σ × List (Event Unit)) Unit} {plain : Action σ Unit}
    (h : db.SendsOnly P noted plain)
    (hb : P beginStatement ∧ P commitStatement ∧ P rollbackStatement) :
    db.SendsOnly P ((db.recording Unit).transaction noted) (db.transaction plain) := by
  refine Always.transaction h (fun _ _ hsent => hsent) ?_ ?_
  · intro sending fault hs _ other hm
    rw [List.mem_singleton.1 hm, hs]
    exact hb.1
  · intro opening sent ended s closing result s' hs hsent hc sending hm
    rcases List.mem_cons.1 hm with rfl | hm
    · rw [hs]
      exact hb.1
    · rcases List.mem_append.1 hm with hm | hm
      · exact hsent sending hm
      · rcases hc.sent sending hm with hs | ⟨hs, -⟩
        · rw [hs]
          exact hb.2.1
        · rw [hs]
          exact hb.2.2

end Database.SendsOnly

/-- A name in small letters. A store does not tell names apart by the case of ASCII letters. -/
def caseless (name : String) : List Char := name.toList.map Char.toLower

/-- The targets of the statement are known, and none of them is the table. -/
def Statement.Spares (other : Identifier) (statement : Statement) : Prop :=
  ∃ targets, statement.targets? = some targets ∧
    ∀ target ∈ targets, caseless target ≠ caseless other.text

namespace Statement.Spares

variable {other table : Identifier} {statement : Statement}

theorem of_nothing (h : statement.targets? = some []) : statement.Spares other :=
  ⟨[], h, by simp⟩

theorem of_single {name : String} (h : statement.targets? = some [name])
    (hne : caseless name ≠ caseless other.text) : statement.Spares other :=
  ⟨[name], h, by simpa using hne⟩

theorem of_writes (h : Writes table.toValue statement)
    (hne : caseless table.text ≠ caseless other.text) : statement.Spares other := by
  obtain ⟨name, hname, htargets⟩ := h
  rw [Statement.tableName_toValue] at hname
  cases hname
  exact of_single htargets hne

theorem bracket : Spares other Database.beginStatement ∧ Spares other Database.commitStatement ∧
    Spares other Database.rollbackStatement :=
  ⟨of_nothing (by decide), of_nothing (by decide), of_nothing (by decide)⟩

end Statement.Spares

/-! ## Operations -/

open Database (SendsOnly)
open Statement (Spares)

/-- Letter case aside, the other table is neither the table of that name nor its index. -/
structure Separate (name other : Identifier) : Prop where
  table : caseless name.text ≠ caseless other.text
  index : caseless (SearchIndex.name name).text ≠ caseless other.text

namespace Table

variable {db : Database σ} {table : Table} {other : Identifier}

theorem spares_define {name : Identifier} (h : caseless name.text ≠ caseless other.text)
    (schema : Option Pairs) : db.SendsOnly (Spares other)
      (define (db.recording Unit) name.toValue schema) (define db name.toValue schema) := by
  refine .ofExcept_bind fun identifier _ => .ofExcept_bind fun statement hs =>
    .ofExcept_bind fun columns _ => ?_
  have htargets : (Database.tableCount name.toValue).targets? = some [] :=
    Statement.targets_of_select
      (Statement.begins_count.append "sqlite_master WHERE type = 'table' AND name = ?")
  have hfound : db.SendsOnly (Spares other) ((db.recording Unit).hasTable name.toValue)
      (db.hasTable name.toValue) :=
    (SendsOnly.queryScalar (.of_nothing htargets)).bind fun found => .ofExcept _
  refine hfound.bind fun found =>
    (SendsOnly.execute (.of_writes (Statement.writes_createTable hs) h)).bind fun _ => ?_
  split
  · exact (SendsOnly.log _).bind fun _ => .pure _
  · exact .pure _

theorem spares_records {statement : Except Fault Statement}
    (h : ∀ s, statement = .ok s → s.targets? = some []) : db.SendsOnly (Spares other)
      (table.records (db.recording Unit) statement) (table.records db statement) :=
  .ofExcept_bind fun s hs => (SendsOnly.query (.of_nothing (h s hs))).bind
    fun rows => .mapM (fun _ => .ofExcept _) rows

theorem spares_firstRecord {statement : Except Fault Statement}
    (h : ∀ s, statement = .ok s → s.targets? = some []) : db.SendsOnly (Spares other)
      (table.firstRecord (db.recording Unit) statement) (table.firstRecord db statement) := by
  refine .ofExcept_bind fun s hs => (SendsOnly.queryRow (.of_nothing (h s hs))).bind fun found => ?_
  cases found with
  | none => exact .pure none
  | some _ => exact (SendsOnly.ofExcept _).bind fun _ => .pure _

theorem spares_insert (h : caseless table.name.text ≠ caseless other.text) (attrs : Pairs) :
    db.SendsOnly (Spares other) (table.insert (db.recording Unit) attrs)
      (table.insert db attrs) := by
  refine .ofExcept_bind fun statement hs =>
    (SendsOnly.execute (.of_writes (Statement.writes_insert hs) h)).bind fun _ =>
      (SendsOnly.queryScalar (.of_nothing (by decide))).bind fun id =>
        (spares_firstRecord fun s hs => Statement.targets_selectById hs).bind fun found => ?_
  cases found with
  | none => exact .ofExcept _
  | some record => exact .pure record

theorem spares_tally (conditions : Pairs) : db.SendsOnly (Spares other)
    (table.tally (db.recording Unit) conditions) (table.tally db conditions) := by
  refine .ofExcept_bind fun statement hs =>
    (SendsOnly.queryScalar (.of_nothing (Statement.targets_count hs))).bind fun counted => ?_
  split
  · exact .ofExcept _
  · exact .pure 0

theorem spares_pluck (column : Value) : db.SendsOnly (Spares other)
    (table.pluck (db.recording Unit) column) (table.pluck db column) :=
  .ofExcept_bind fun _ hs => .ofExcept_bind fun _ _ =>
    (SendsOnly.query (.of_nothing (Statement.targets_select hs))).bind fun _ => .ofExcept _

theorem spares_change {statement : Statement} (h : statement.Spares other) (message : String) :
    db.SendsOnly (Spares other) (table.change (db.recording Unit) statement message)
      (table.change db statement message) :=
  (SendsOnly.execute h).bind fun _ => (SendsOnly.log _).bind fun _ => .pure _

theorem spares_destroy (h : caseless table.name.text ≠ caseless other.text) (conditions : Pairs) :
    db.SendsOnly (Spares other) (table.destroy (db.recording Unit) conditions)
      (table.destroy db conditions) :=
  .ofExcept_bind fun _ hs => spares_change (.of_writes (Statement.writes_delete hs) h) _

theorem spares_updateAll (h : caseless table.name.text ≠ caseless other.text)
    (conditions attrs : Pairs) : db.SendsOnly (Spares other)
      (table.updateAll (db.recording Unit) conditions attrs)
      (table.updateAll db conditions attrs) := by
  unfold updateAll
  split
  · exact .pure 0
  · exact .ofExcept_bind fun _ hs => spares_change (.of_writes (Statement.writes_update hs) h) _

/-- The index is dropped and made anew, and nothing else is. -/
theorem spares_rebuildIndex (h : Separate table.name other) (columns : List Identifier) :
    db.SendsOnly (Spares other) (table.rebuildIndex (db.recording Unit) columns)
      (table.rebuildIndex db columns) := by
  refine .ofExcept_bind fun creation hs => .executeAll fun statement hm => ?_
  -- the creation of an index over no columns is refused, so it is not sent
  have hne : columns ≠ [] := by
    rintro rfl
    rw [SearchIndex.creationOf, Statement.tableName_toValue] at hs
    cases hs
  rw [SearchIndex.creationOf_toValue table.name hne] at hs
  cases hs
  rcases List.mem_append.1 hm with hm | hm
  · rcases SearchIndex.targets_removal hm with ht | ht
    · exact .of_nothing ht
    · exact .of_single ht h.index
  · obtain ⟨targets, ht, htargets⟩ := SearchIndex.targets_creation hne hm
    refine ⟨targets, ht, fun target hm => ?_⟩
    rcases htargets target hm with rfl | rfl
    · exact h.table
    · exact h.index

theorem spares_makeSearchable (h : Separate table.name other) (columns : List Value) :
    db.SendsOnly (Spares other) ((makeSearchable (db.recording Unit) columns).value table)
      ((makeSearchable db columns).value table) := by
  rw [value_makeSearchable, value_makeSearchable]
  refine .ofExcept_bind fun columns _ => ?_
  have hfound : db.SendsOnly (Spares other) (table.indexedColumns (db.recording Unit))
      (table.indexedColumns db) :=
    (SendsOnly.query (.of_nothing table.targets_indexInfo)).bind fun rows => .ofExcept _
  refine hfound.bind fun found => ?_
  split
  · exact ((spares_rebuildIndex h columns).transaction Spares.bracket).bind fun _ =>
      (SendsOnly.log _).bind fun _ => .pure _
  · exact .pure _

theorem spares_search (query : String) (argument : SearchArgument) :
    db.SendsOnly (Spares other) (table.search (db.recording Unit) query argument)
      (table.search db query argument) := by
  unfold search searchWith
  cases table.searchColumns with
  | none => exact .ofExcept _
  | some columns =>
      refine .ofExcept_bind fun options _ => ?_
      split
      · exact .pure []
      · refine .ofExcept_bind fun limit _ => .ofExcept_bind fun statement hs =>
          (SendsOnly.log _).bind fun _ => ?_
        exact (SendsOnly.query (.of_nothing (SearchQuery.targets_statement hs))).bind
          fun rows => .ofExcept _

theorem spares_collect {f : Record → Action (σ × List (Event Unit)) α} {f' : Record → Action σ α}
    (h : ∀ record, db.SendsOnly (Spares other) (f record) (f' record)) :
    db.SendsOnly (Spares other) (table.collect (db.recording Unit) f) (table.collect db f') :=
  (spares_records fun _ hs => Statement.targets_select hs).bind fun records => .mapM h records

end Table

namespace Record

variable {db : Database σ} {record : Record} {table other : Identifier}

theorem spares_save (h : caseless table.text ≠ caseless other.text)
    (hr : record.table = table.toValue) :
    db.SendsOnly (Spares other) (record.save (db.recording Unit)) (record.save db) := by
  refine .ofExcept_bind fun _ _ => ?_
  split
  · exact .pure ()
  · refine .ofExcept_bind fun statement hs => ?_
    rw [updateStatement, hr] at hs
    exact (SendsOnly.execute (.of_writes (Statement.writes_updateById hs) h)).bind
      fun _ => .log _

theorem spares_deleteRow (h : caseless table.text ≠ caseless other.text)
    (hr : record.table = table.toValue) : db.SendsOnly (Spares other)
      ((deleteRow (db.recording Unit)).value record) ((deleteRow db).value record) := by
  rw [value_deleteRow, value_deleteRow]
  refine .ofExcept_bind fun _ _ => .ofExcept_bind fun statement hs => ?_
  rw [hr] at hs
  exact (SendsOnly.execute (.of_writes (Statement.writes_deleteById hs) h)).bind fun _ =>
    (SendsOnly.log _).bind fun _ => .pure _

theorem spares_reloadRow : db.SendsOnly (Spares other)
    ((reloadRow (db.recording Unit)).value record) ((reloadRow db).value record) := by
  rw [value_reloadRow, value_reloadRow]
  refine .ofExcept_bind fun _ _ => .ofExcept_bind fun statement hs =>
    (SendsOnly.queryRow (.of_nothing (Statement.targets_selectById hs))).bind fun row => ?_
  cases row with
  | none => exact .pure _
  | some row => exact .pure _

theorem spares_putItem (key v : Value) : db.SendsOnly (Spares other)
    (InPlace.value (putItem key v) record) (InPlace.value (putItem key v) record) := by
  rw [value_putItem_eq, value_putItem_eq]
  exact .ofExcept_bind fun _ _ => .pure _

theorem spares_putAttribute (name : String) (v : Value) : db.SendsOnly (Spares other)
    (InPlace.value (putAttribute name v) record) (InPlace.value (putAttribute name v) record) := by
  rw [value_putAttribute_eq, value_putAttribute_eq]
  exact .ofExcept_bind fun _ _ => .pure _

end Record

/-- The table that an operation is about. -/
def Request.subject (held : Holding) : Request → Value
  | define name _ => name
  | save | delete | reload | setAttribute .. | setItem .. => held.record.table
  | _ => held.table.name.toValue

theorem Request.spares_value {db : Database σ} {held : Holding} {request : Request}
    {table other : Identifier} (hsubject : request.subject held = table.toValue)
    (h : Separate table other) : db.SendsOnly (Spares other)
      ((request.perform (db.recording Unit)).value held) ((request.perform db).value held) := by
  cases request with
  | define name schema =>
      cases hsubject
      exact .taking (Table.spares_define h.table schema)
  | insert attrs =>
      obtain rfl := Identifier.toValue_injective hsubject
      exact .taking (Table.spares_insert h.table attrs)
  | get id => exact .taking (Table.spares_firstRecord fun _ => Statement.targets_selectById)
  | list | filter => exact .taking (Table.spares_records fun _ => Statement.targets_select)
  | first conditions =>
      exact .taking (Table.spares_firstRecord fun _ => Statement.targets_select)
  | tally conditions => exact .taking (Table.spares_tally conditions)
  | exists? conditions => exact .taking ((Table.spares_tally conditions).bind fun _ => .pure _)
  | pluck column => exact .taking (Table.spares_pluck column)
  | destroy conditions =>
      obtain rfl := Identifier.toValue_injective hsubject
      exact .taking (Table.spares_destroy h.table conditions)
  | updateAll conditions attrs =>
      obtain rfl := Identifier.toValue_injective hsubject
      exact .taking (Table.spares_updateAll h.table conditions attrs)
  | searchable columns =>
      obtain rfl := Identifier.toValue_injective hsubject
      refine Holding.always_onTable ?_
      exact Table.spares_makeSearchable h columns
  | search query argument => exact .taking (Table.spares_search query argument)
  | save => exact .taking (Record.spares_save h.table hsubject)
  | delete =>
      refine Holding.always_onRecord ?_
      exact Record.spares_deleteRow h.table hsubject
  | reload =>
      rw [value_reload, value_reload]
      refine SendsOnly.bind (Holding.always_onRecord ?_) fun found => .pure ((), found.2)
      exact Record.spares_reloadRow
  | setAttribute name v =>
      rw [value_setAttribute, value_setAttribute]
      refine .ofExcept_bind fun name _ => Holding.always_onRecord ?_
      exact Record.spares_putAttribute name v
  | setItem key v =>
      refine Holding.always_onRecord ?_
      exact Record.spares_putItem key v

theorem Request.spares_perform {db : Database σ} {held : Holding} {request : Request}
    {table other : Identifier} (hsubject : request.subject held = table.toValue)
    (h : Separate table other) : db.SendsOnly (Spares other)
      ((request.perform (db.recording Unit)).runOn held) ((request.perform db).runOn held) := by
  have hon : db.AlwaysOn (request.perform (db.recording Unit)) (request.perform db) held
      fun sent _ _ => ∀ sending ∈ sent, Spares other sending.statement :=
    .on (framed_perform _ request) (framed_perform db request) (spares_value hsubject h)
  refine Database.Always.imp hon ?_
  rintro sent _ ⟨_, _, -, hspares⟩
  exact hspares

/-- Whatever the store answers, the operations of a table and of its records send nothing that
creates, drops or writes a table that is neither that table nor its index, letter case aside. The
same holds of going through the records, if what is done with each of them sends no such thing. -/
theorem operations_spare_others (db : Database σ) {name other : Identifier}
    (h : Separate name other) :
    (∀ held request, Request.subject held request = name.toValue →
      db.SendsOnly (Spares other) ((request.perform (db.recording Unit)).runOn held)
        ((request.perform db).runOn held)) ∧
    ∀ (table : Table) (f : Record → Action (σ × List (Event Unit)) α) (f' : Record → Action σ α),
      table.name = name → (∀ record, db.SendsOnly (Spares other) (f record) (f' record)) →
      db.SendsOnly (Spares other) (table.collect (db.recording Unit) f) (table.collect db f') ∧
        db.SendsOnly (Spares other) (table.forEach (db.recording Unit) f)
          (table.forEach db f') := by
  refine ⟨fun held request hsubject => Request.spares_perform hsubject h, ?_⟩
  intro table f f' _ hf
  have hcollect : db.SendsOnly (Spares other) (table.collect (db.recording Unit) f)
      (table.collect db f') := Table.spares_collect hf
  exact ⟨hcollect, hcollect.bind fun _ => .pure ()⟩

theorem notes_operations_spare_tags :
    Separate notes.name ⟨"tags", by decide⟩ ∧
    Playback.database.SendsOnly (Spares ⟨"tags", by decide⟩)
      (((Request.searchable [.text "title"]).perform (Playback.database.recording Unit)).runOn
        ⟨notes, note "seen"⟩)
      (((Request.searchable [.text "title"]).perform Playback.database).runOn
        ⟨notes, note "seen"⟩) ∧
    Playback.database.SendsOnly (Spares ⟨"tags", by decide⟩)
      (notes.collect (Playback.database.recording Unit) fun record => pure record.id)
      (notes.collect Playback.database fun record => pure record.id) := by
  have h : Separate notes.name ⟨"tags", by decide⟩ := ⟨by decide, by decide⟩
  have hcollect := (operations_spare_others Playback.database h).2 notes
    (fun record => pure record.id) (fun record => pure record.id) rfl fun _ => .pure _
  exact ⟨h, (operations_spare_others (α := Unit) Playback.database h).1 _ _ rfl, hcollect.1⟩

def notesNamesake : Table := { notes with name := SearchIndex.name notes.name }

open Playback (answering)

theorem searchable_drops_namesake :
    notes.Accepted Playback.database ∧ notesNamesake.Accepted Playback.database ∧
    caseless notes.name.text ≠ caseless notesNamesake.name.text ∧
    ¬ Playback.database.SendsOnly (Spares notesNamesake.name)
      (notes.searchable (Playback.database.recording Unit) [.text "title"])
      (notes.searchable Playback.database [.text "title"]) := by
  let schema : Pairs := [(.text "title", .text "TEXT")]
  let empty : Playback := answering (.ofPairs [(.text "COUNT(*)", .int 0)])
  have hnotes : ((Table.define Playback.database (.text "notes") (some schema)).runFrom
      ⟨empty, []⟩).1 = .ok notes := rfl
  have hnamesake : ((Table.define Playback.database (.text "notes_fts") (some schema)).runFrom
      ⟨empty, []⟩).1 = .ok notesNamesake := rfl
  obtain ⟨_, _, hn⟩ := (Table.sound_define _ _ _).exists_sends hnotes
  obtain ⟨_, _, hm⟩ := (Table.sound_define _ _ _).exists_sends hnamesake
  refine ⟨.defined hn, .defined hm, by decide, fun hspares => ?_⟩
  -- a store that answers everything is sent the removal of the index in full
  obtain ⟨sent, outcome, p, hs, hall⟩ := hspares {}
  obtain ⟨_, hplain⟩ := hs.plain []
  have hdropped : "DROP TABLE IF EXISTS notes_fts" ∈ ((notes.searchable Playback.database
      [.text "title"]).runFrom ⟨{}, []⟩).2.state.sent.map (·.sql) := by decide +kernel
  rw [hplain] at hdropped
  have hsent : p.sent = [] ++ sent.map (·.statement) := Playback.sent_of_chain hs.chain rfl
  rw [List.nil_append] at hsent
  obtain ⟨statement, hm, hsql⟩ := List.mem_map.1 hdropped
  rw [hsent] at hm
  obtain ⟨sending, hsending, rfl⟩ := List.mem_map.1 hm
  obtain ⟨targets, htargets, hspared⟩ := hall sending hsending
  have hdrop : readTargets (completeTokens "DROP TABLE IF EXISTS notes_fts") =
      some ["notes_fts"] := by decide
  rw [Statement.targets?, hsql, hdrop] at htargets
  cases htargets
  exact hspared "notes_fts" (by simp) rfl

end TableRecords
