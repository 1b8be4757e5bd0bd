import Mathlib
import TableRecords.Proofs.Record.Lifecycle
import TableRecords.Proofs.Table.Records

/-! # Saving

A record that a table produced keeps the columns of the table, whatever is done with it. Saving it
writes each of them back once, in the order of its fields, and nothing else.
-/

namespace TableRecords

variable {σ : Type}

abbrev Written : Type := Identifier × Value

namespace Written

def entry (written : Written) : Value × Value := (written.1.toValue, written.2)

def assignment (written : Written) : Assignment := ⟨written.1, written.2⟩

def statement (table : Identifier) (columns : List Written) (id : Value) : Statement where
  sql := "UPDATE " ++ table.text ++ " SET " ++
    ", ".intercalate (columns.map fun written => written.1.text ++ " = ?") ++ " WHERE id = ?"
  params := columns.map (fun written => bindable written.2) ++ [id]

end Written

theorem Assignment.ofPairs_written (columns : List Written) :
    ofPairs (columns.map Written.entry) = .ok (columns.map Written.assignment) := by
  refine Outcome.mapM_eq_ok.2 (List.forall₂_map_left_iff.2 (List.forall₂_map_right_iff.2 ?_))
  refine List.forall₂_same.2 fun written _ => ?_
  exact Outcome.bind_eq_ok.2 ⟨written.1, Identifier.ofValue_toValue "column" written.1, rfl⟩

theorem append_key (head : String) :
    head ++ " WHERE " ++ primaryKey.text ++ " = ?" = head ++ " WHERE id = ?" := by
  have hkey : " WHERE " ++ primaryKey.text ++ " = ?" = " WHERE id = ?" := by decide
  rw [← hkey, String.append_assoc, String.append_assoc, String.append_assoc]

theorem Statement.updateById_written (table : Identifier) (columns : List Written) (id : Value) :
    updateById table.toValue (some (columns.map Written.entry)) id =
      .ok (Written.statement table columns id) := by
  refine Outcome.bind_eq_ok.2 ⟨table, Identifier.ofValue_toValue "table" table, ?_⟩
  refine Outcome.bind_eq_ok.2 ⟨_, Assignment.ofPairs_written columns, ?_⟩
  have hset : Assignment.setClause (columns.map Written.assignment) =
      ", ".intercalate (columns.map fun written => written.1.text ++ " = ?") := by
    rw [Assignment.setClause, List.map_map]
    rfl
  have hparams : Assignment.params (columns.map Written.assignment) =
      columns.map fun written => bindable written.2 := by
    rw [Assignment.params, List.map_map]
    rfl
  rw [hset, hparams, append_key]
  rfl

theorem exists_written {entries : Pairs} (h : ∀ entry ∈ entries, ∃ column : Identifier,
    entry.1 = column.toValue) : ∃ columns : List Written, entries = columns.map Written.entry := by
  induction entries with
  | nil => exact ⟨[], rfl⟩
  | cons entry rest ih =>
      obtain ⟨columns, rfl⟩ := ih fun other ho => h other (List.mem_cons_of_mem _ ho)
      obtain ⟨column, hc⟩ := h entry List.mem_cons_self
      exact ⟨(column, entry.2) :: columns, by rw [List.map_cons, Written.entry, ← hc]⟩

namespace Record

/-- Whether these are the fields of a record besides its primary key, in their order. -/
def Writes (record : Record) (columns : List Written) : Prop :=
  record.persisted.entries = columns.map Written.entry

theorem mem_persisted {record : Record} {key : Value} :
    key ∈ record.persisted.keys ↔ key ∈ record.fields.keys ∧ key ≠ primaryKey.toValue := by
  have hsame : key.same primaryKey.toValue = true ↔ key = primaryKey.toValue := Value.same_text_iff
  simp only [persisted, Fields.filter, Fields.keys, List.mem_map, List.mem_filter]
  constructor
  · rintro ⟨entry, ⟨hm, hne⟩, rfl⟩
    refine ⟨⟨entry, hm, rfl⟩, fun heq => ?_⟩
    rw [hsame.2 heq] at hne
    cases hne
  · rintro ⟨⟨entry, hm, rfl⟩, hne⟩
    exact ⟨entry, ⟨hm, by simpa using fun hs => hne (hsame.1 hs)⟩, rfl⟩

theorem always_save_written (db : Database σ) {table : Identifier} {record : Record}
    {columns : List Written} (hd : record.deleted = false) (ht : record.table = table.toValue)
    (hw : record.Writes columns) :
    db.Always (record.save (db.recording Unit)) (record.save db) fun sent _ =>
      sent.map (·.statement) =
        if columns = [] then [] else [Written.statement table columns record.id] := by
  have halive : record.ensureAlive "save" = .ok () := if_neg (by simp [hd])
  have hstatement : record.updateStatement = .ok (Written.statement table columns record.id) := by
    rw [updateStatement, ht, hw, Statement.updateById_written]
  refine .ok_bind halive ?_
  rw [hw]
  cases columns with
  | nil => exact .ofExcept rfl
  | cons first rest =>
      refine .ok_bind hstatement ((db.asks_execute _).bind (fun sending _ hsent _ => ?_) ?_)
      · simp [hsent]
      · intro sending reply hsent _
        exact .log _ (by simp [hsent])

end Record

namespace Table

variable {table : Table} {record : Record}

/-- The columns that a record of a table writes back, with what it writes to them: those of the
schema, each of them once, in the order of the fields. -/
structure WritesBack (table : Table) (record : Record) (columns : List Written) : Prop where
  fields : record.Writes columns
  once : (columns.map (·.1)).Nodup
  all : ∀ column, column ∈ columns.map (·.1) ↔ column ∈ table.schemaColumns

theorem Owns.of_resembles {other : Record} (h : table.Owns record) (hr : other.Resembles record) :
    table.Owns other :=
  ⟨hr.table.trans h.named, hr.keys ▸ h.keys⟩

theorem Owns.exists_writes (h : table.Owns record) : ∃ columns, record.Writes columns := by
  refine exists_written fun entry hm => ?_
  have hkey := (Record.mem_persisted.1 (List.mem_map_of_mem hm)).1
  obtain ⟨column, -, hc⟩ := List.mem_map.1 ((h.keys entry.1).1 hkey)
  exact ⟨column, hc.symm⟩

theorem Owns.mem_persisted (h : table.Owns record) (hs : table.Sound) (column : Identifier) :
    column.toValue ∈ record.persisted.keys ↔ column ∈ table.schemaColumns := by
  rw [Record.mem_persisted, h.keys,
    List.mem_map_of_injective fun _ _ => Identifier.toValue_injective, columns, List.mem_cons]
  constructor
  · rintro ⟨rfl | hc, hne⟩
    · exact absurd rfl hne
    · exact hc
  · intro hc
    exact ⟨Or.inr hc, fun heq => (hs column hc).1 (Identifier.toValue_injective heq)⟩

theorem Owns.writesBack (h : table.Owns record) (hs : table.Sound) :
    ∃ columns, table.WritesBack record columns := by
  obtain ⟨columns, hw⟩ := h.exists_writes
  have hpersisted : record.persisted.keys = columns.map fun written => written.1.toValue := by
    rw [Fields.keys, hw, List.map_map]
    rfl
  refine ⟨columns, hw, ?_, fun column => ?_⟩
  · have hdistinct := record.persisted.distinct
    rw [hw, Entries.Distinct, List.pairwise_map] at hdistinct
    -- fields of one column would have the same key
    refine List.pairwise_map.2 (hdistinct.imp fun hapart heq => ?_)
    rw [Written.entry, Written.entry, heq, Identifier.toValue, Value.same_text_iff.2 rfl] at hapart
    cases hapart
  · rw [← h.mem_persisted hs, hpersisted]
    simp only [List.mem_map]
    exact exists_congr fun written => and_congr_right fun _ =>
      ⟨congrArg _, Identifier.toValue_injective⟩

/-- Nothing is written back only if the primary key is all that the record has. -/
theorem WritesBack.eq_nil_iff {columns : List Written} (h : table.WritesBack record columns) :
    columns = [] ↔ ∀ key ∈ record.fields.keys, key = primaryKey.toValue := by
  have hempty : columns = [] ↔ record.persisted.keys = [] := by
    rw [Fields.keys, h.fields, List.map_eq_nil_iff, List.map_eq_nil_iff]
  rw [hempty, List.eq_nil_iff_forall_not_mem]
  exact forall_congr' fun key => by rw [Record.mem_persisted, not_and_not_right]

end Table

/-- A record that a table produced, from a row or from a search hit, keeps being written back as a
row of the table, whatever was done with it before. -/
theorem save_writes_columns {db : Database σ} {table : Table} {record final : Record} {s s' : σ}
    {steps : List Record.Step} (accepted : table.Accepted db) (produced : table.Produces db record)
    (life : Record.Life db record s steps final s') (faithful : ∀ step ∈ steps, step.Faithful)
    (alive : final.deleted = false) :
    ∃ columns, table.WritesBack final columns ∧
      (∀ written ∈ columns, written.1 ≠ primaryKey ∧
        Annotations.isComputed written.1.text = false) ∧
      (columns = [] ↔ ∀ key ∈ final.fields.keys, key = primaryKey.toValue) ∧
      db.Always (final.save (db.recording Unit)) (final.save db) fun sent _ =>
        sent.map (·.statement) =
          if columns = [] then [] else [Written.statement table.name columns final.id] := by
  have hsound := accepted.sound
  have howns : table.Owns final :=
    (produced.owns table hsound).of_resembles (life.resembles faithful).2
  obtain ⟨columns, hback⟩ := howns.writesBack hsound
  refine ⟨columns, hback, fun written hm => ?_, hback.eq_nil_iff,
    final.always_save_written db alive howns.named hback.fields⟩
  exact hsound written.1 ((hback.all written.1).1 (List.mem_map_of_mem hm))

def searchableNotes : Table := { notes with searchColumns := some notes.schemaColumns }

def noteHit : Fields := (noteFields "seen").setAll
  [(.text "_fts_rank", .real (.finite true .zero)), (.text "_fts_snippet", .text "<b>seen</b>"),
    (.text "_fts_hl_title", .text "<b>seen</b>")]

open Playback (answering eq_of_answering)

theorem accepted_notes : searchableNotes.Accepted Playback.database := by
  have hdefined : ((Table.define Playback.database (.text "notes")
      (some [(.text "title", .text "TEXT")])).runFrom
        ⟨answering (.ofPairs [(.text "COUNT(*)", .int 0)]), []⟩).1 = .ok notes := rfl
  have hindexed : ((notes.searchable Playback.database [.text "title"]).runFrom
      ⟨answering (.ofPairs [(.text "name", .text "title")]), []⟩).1 = .ok searchableNotes := rfl
  obtain ⟨_, _, hdefine⟩ := (Table.sound_define _ _ _).exists_sends hdefined
  have haccepted : notes.Accepted Playback.database := .defined hdefine
  obtain ⟨_, _, hindex⟩ := (Table.sound_searchable haccepted.sound _ _).exists_sends hindexed
  exact .indexed haccepted hindex

theorem produced_note : searchableNotes.Produces Playback.database (note "seen") := by
  let options : SearchOptions := { snippet := true, highlight := true }
  have hfound : ((searchableNotes.search Playback.database "seen" (.ready options)).runFrom
      ⟨answering noteHit, []⟩).1 = .ok [note "seen"] := rfl
  have hkeys : noteHit.keys = searchableNotes.columns.map (·.toValue) ++
      (Table.computedColumns notes.schemaColumns options).map .text := rfl
  obtain ⟨sent, _, hsearch⟩ := (Table.yields_search _ _ _).exists_sends hfound
  refine .found rfl rfl hsearch (fun sending hm _ reply ho row hrow key => ?_)
    (List.mem_singleton.2 rfl)
  rw [eq_of_answering hsearch.chain hm ho hrow, hkeys, List.mem_append]

theorem note_save_writes_title :
    Playback.database.Always ((note "kept").save (Playback.database.recording Unit))
      ((note "kept").save Playback.database) fun sent _ => sent.map (·.statement) =
        [⟨"UPDATE notes SET title = ? WHERE id = ?", [.text "kept", .int 1]⟩] := by
  have hreloaded : (((Record.Move.reload.perform Playback.database).runOn (note "seen")).runFrom
      ⟨answering (noteFields "lost"), []⟩).1 = .ok (.ok (.reloaded true), note "lost") := rfl
  obtain ⟨sent, s, hreload⟩ :=
    Database.Always.exists_sends (Record.Move.reload.takes _ _) hreloaded
  let assignment := Record.Move.setItem (.text "title") (.text "kept")
  have hassigned : (((assignment.perform Playback.database).runOn (note "lost")).runFrom
      ⟨s, []⟩).1 = .ok (.ok .done, note "kept") := rfl
  obtain ⟨silence, s', hassign⟩ :=
    Database.Always.exists_sends (assignment.takes _ _) hassigned
  let reloading : Record.Step :=
    ⟨note "seen", .reload, sent, .ok (.reloaded true), note "lost"⟩
  let assigning : Record.Step := ⟨note "lost", assignment, silence, .ok .done, note "kept"⟩
  have hrest : Record.Life Playback.database assigning.before s [assigning] assigning.after s' :=
    .cons hassign .nil
  have hlife : Record.Life Playback.database reloading.before (answering (noteFields "lost"))
      [reloading, assigning] assigning.after s' := .cons hreload hrest
  have hrow : (note "seen").IsRow (noteFields "lost") := ⟨rfl, by decide, by decide⟩
  have hfaithful : ∀ step ∈ [reloading, assigning], step.Faithful := by
    intro step hm
    rcases List.mem_cons.1 hm with rfl | hm
    · intro _ sending hsent reply row ho hhead
      rwa [eq_of_answering hreload.chain hsent ho (List.mem_of_mem_head? hhead)]
    · rw [List.mem_singleton.1 hm]
      exact fun h => by cases h
  obtain ⟨columns, hback, -, -, hsave⟩ :=
    save_writes_columns accepted_notes produced_note hlife hfaithful rfl
  have hfields : columns.map Written.entry = [(.text "title", .text "kept")] :=
    hback.fields.symm
  obtain ⟨⟨column, v⟩, rfl, hwritten⟩ := List.map_eq_singleton_iff.1 hfields
  have hcolumn : column = ⟨"title", by decide⟩ :=
    Identifier.toValue_injective (Prod.mk.inj hwritten).1
  have hv : v = .text "kept" := (Prod.mk.inj hwritten).2
  rw [hcolumn, hv] at hsave
  exact hsave

end TableRecords
