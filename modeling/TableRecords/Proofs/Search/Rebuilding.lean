import Mathlib
import TableRecords.Proofs.Search.Indexing
import TableRecords.Proofs.Store.Carrying
import TableRecords.Proofs.Table.Refusals

/-! # Rebuilding a search index

Making a table searchable asks the store which columns the index has. If these are the ones that
are wanted nothing else is sent; otherwise the index is removed and created again, in a transaction
of its own or in the one that is open. The table takes over the columns if all of it succeeds.
-/

namespace TableRecords

variable {σ : Type}

/-- The statements that remove an index and create it again. -/
def SearchIndex.rebuilding (table : Identifier) (columns : List Identifier) : List Statement :=
  removal table ++ creation table columns

namespace Table

/-- The ways of giving a table an index over columns: what is sent, and how it ends. -/
inductive Replaces (table : Table) (columns : List Identifier) :
    List Sending → Except Fault Unit → Prop
  | unanswered {query fault} (hq : query.statement = table.indexInfo)
      (ho : query.outcome = .error fault) : Replaces table columns [query] (.error fault)
  | unreported {query reply fault} (hq : query.statement = table.indexInfo)
      (ho : query.outcome = .ok reply) (hf : reply.rows.mapM indexedColumn = .error fault) :
      Replaces table columns [query] (.error fault)
  | kept {query reply} (hq : query.statement = table.indexInfo) (ho : query.outcome = .ok reply)
      (hf : reply.rows.mapM indexedColumn = .ok (columns.map Identifier.toValue)) :
      Replaces table columns [query] (.ok ())
  | rebuilt {query reply found sent ended} (hq : query.statement = table.indexInfo)
      (ho : query.outcome = .ok reply) (hf : reply.rows.mapM indexedColumn = .ok found)
      (hne : found ≠ columns.map Identifier.toValue)
      (ht : Transacted (SearchIndex.rebuilding table.name columns) query.after sent ended) :
      Replaces table columns (query :: sent) ended

variable {db : Database σ} {table : Table} {columns : List Identifier}

def indexed (table : Table) (columns : List Identifier) : Table :=
  { table with searchColumns := some columns }

theorem searchable_of_columns (db : Database σ) (ne : columns ≠ [])
    (hcolumns : ∀ column ∈ columns, column ∈ table.schemaColumns) :
    table.searchable db (columns.map Identifier.toValue) = (do
      let found ← table.indexedColumns db
      if !namesColumns found columns then
        db.transaction (db.executeAll (SearchIndex.rebuilding table.name columns))
        Action.log (table.entry Level.info "Built search index" [("columns", namesValue columns)])
      pure (table.indexed columns)) := by
  have hrebuild : table.rebuildIndex db columns =
      db.executeAll (SearchIndex.rebuilding table.name columns) := by
    unfold rebuildIndex
    rw [SearchIndex.creationOf_toValue table.name ne]
    rfl
  rw [searchable_eq, searchColumnsOf_eq_ok.2 ⟨rfl, hcolumns⟩, ← hrebuild]
  rfl

theorem sends_indexedColumns (db : Database σ) (table : Table) (s : σ) : ∃ query outcome s₁,
    db.Sends (table.indexedColumns (db.recording Unit)) (table.indexedColumns db) s [query] outcome
      s₁ ∧ query.statement = table.indexInfo ∧ query.after = db.store.inTransaction s₁ ∧
    outcome = query.outcome >>= fun reply => reply.rows.mapM indexedColumn := by
  refine ⟨db.store.sending s table.indexInfo, _, (db.store.send s table.indexInfo).2, ?_, rfl, rfl,
    rfl⟩
  show db.Sends _ _ s _ ((db.store.send s table.indexInfo).1 >>= _) _
  cases hanswer : (db.store.send s table.indexInfo).1 with
  | error fault =>
      have hrun := db.sends_run table.indexInfo s
      rw [hanswer] at hrun
      exact hrun.bind_error.bind_error
  | ok reply => exact (db.sends_query hanswer).bind (.ofExcept (reply.rows.mapM indexedColumn) _)

theorem sends_rebuilt (db : Database σ) (entry : Entry) (s : σ) : ∃ sent ended s', db.Sends
      (do
        (db.recording Unit).transaction
          ((db.recording Unit).executeAll (SearchIndex.rebuilding table.name columns))
        Action.log entry
        pure (table.indexed columns))
      (do
        db.transaction (db.executeAll (SearchIndex.rebuilding table.name columns))
        Action.log entry
        pure (table.indexed columns)) s sent (ended.map fun _ => table.indexed columns) s' ∧
    (Reliable sent → Transacted (SearchIndex.rebuilding table.name columns)
      (db.store.inTransaction s) sent ended) := by
  obtain ⟨sent, ended, s', htransaction, hways⟩ :=
    db.sends_transacted (SearchIndex.rebuilding table.name columns) s
  refine ⟨sent, ended, s', ?_, hways⟩
  cases ended with
  | error fault => exact htransaction.bind_error
  | ok _ =>
      have hlog : db.Sends (do Action.log entry; pure (table.indexed columns))
          (do Action.log entry; pure (table.indexed columns)) s' [] (.ok (table.indexed columns))
          s' := (Database.Sends.log entry s').bind_silent (.ofExcept (.ok _) s')
      exact htransaction.bind_silent hlog

theorem sends_searchable (db : Database σ) (ne : columns ≠ [])
    (hcolumns : ∀ column ∈ columns, column ∈ table.schemaColumns) (s : σ) :
    ∃ sent ended s', db.Sends
        (table.searchable (db.recording Unit) (columns.map Identifier.toValue))
        (table.searchable db (columns.map Identifier.toValue)) s sent
        (ended.map fun _ => table.indexed columns) s' ∧
      (Reliable sent → table.Replaces columns sent ended) := by
  rw [searchable_of_columns _ ne hcolumns, searchable_of_columns _ ne hcolumns]
  -- the answer to the first statement decides whether there are more
  obtain ⟨query, outcome, s₁, hquery, hstatement, hafter, houtcome⟩ :=
    sends_indexedColumns db table s
  cases hanswer : query.outcome with
  | error fault =>
      have hfault : outcome = .error fault := by
        rw [houtcome, hanswer]
        rfl
      rw [hfault] at hquery
      exact ⟨[query], .error fault, s₁, hquery.bind_error, fun _ => .unanswered hstatement hanswer⟩
  | ok reply =>
      have hreported : outcome = reply.rows.mapM indexedColumn := by
        rw [houtcome, hanswer]
        rfl
      rw [hreported] at hquery
      cases hrows : reply.rows.mapM indexedColumn with
      | error fault =>
          rw [hrows] at hquery
          exact ⟨[query], .error fault, s₁, hquery.bind_error,
            fun _ => .unreported hstatement hanswer hrows⟩
      | ok found =>
          rw [hrows] at hquery
          by_cases hsame : namesColumns found columns = true
          · rw [namesColumns_iff.1 hsame] at hrows
            refine ⟨[query], .ok (), s₁, hquery.bind_silent ?_,
              fun _ => .kept hstatement hanswer hrows⟩
            simp only [hsame, Bool.not_true, Bool.false_eq_true, if_false]
            exact .ofExcept (.ok (table.indexed columns)) s₁
          · obtain ⟨sent, ended, s', hsends, hways⟩ := sends_rebuilt db (table.entry Level.info
              "Built search index" [("columns", namesValue columns)]) s₁
            refine ⟨[query] ++ sent, ended, s', hquery.bind ?_, fun hr => ?_⟩
            · simp only [hsame, Bool.not_false, if_true]
              exact hsends
            · rw [← hafter] at hways
              exact .rebuilt hstatement hanswer hrows (fun h => hsame (namesColumns_iff.2 h))
                (hways (hr.mono (List.subset_cons_self _ _)))

theorem always_makeSearchable (db : Database σ) (ne : columns ≠ [])
    (hcolumns : ∀ column ∈ columns, column ∈ table.schemaColumns) :
    db.Always ((makeSearchable (db.recording Unit) (columns.map Identifier.toValue)).value table)
      ((makeSearchable db (columns.map Identifier.toValue)).value table) fun sent result =>
        ∃ ended, result = (fun _ => ((), table.indexed columns)) <$> ended ∧
          (Reliable sent → table.Replaces columns sent ended) := by
  rw [value_makeSearchable_eq, value_makeSearchable_eq]
  refine .map fun s => ?_
  obtain ⟨sent, ended, s', hs, hways⟩ := sends_searchable db ne hcolumns s
  refine ⟨sent, _, s', hs, ended, ?_, hways⟩
  cases ended <;> rfl

end Table

/-- From any state of the store, making a table searchable over columns of its own comes to an end.
If the store fails with faults of its own only, and refuses no rollback, it goes one of the ways
there are. The table in hand has the new columns exactly if it succeeds, and is as it was
otherwise. -/
theorem searchable_replaces (db : Database σ) (held : Holding) (columns : List Identifier)
    (ne : columns ≠ []) (hcolumns : ∀ column ∈ columns, column ∈ held.table.schemaColumns) (s : σ) :
    ∃ sent ended held' s', db.Sends
        (((Request.searchable (columns.map Identifier.toValue)).perform
          (db.recording Unit)).runOn held)
        (((Request.searchable (columns.map Identifier.toValue)).perform db).runOn held) s sent
        (.ok (ended, held')) s' ∧
      (Reliable sent → held.table.Replaces columns sent ended) ∧
      ((ended = .ok () ∧ held' = { held with table := held.table.indexed columns } ∧
          held'.table.searchColumns = some columns) ∨
        ∃ fault, ended = .error fault ∧ held' = held) := by
  refine Database.AlwaysOn.exists_sends (.on (Request.framed_perform _ _)
    (Request.framed_perform db _) (Holding.always_onTable ?_)) s
  refine (Table.always_makeSearchable db ne hcolumns).imp ?_
  rintro sent _ ⟨ended, rfl, hways⟩
  cases ended with
  | error fault => exact ⟨hways, .inr ⟨fault, rfl, rfl⟩⟩
  | ok _ => exact ⟨hways, .inl ⟨rfl, rfl, rfl⟩⟩

theorem searchable_replaces_notes : ∃ sent s', Playback.database.Sends
      (((Request.searchable [.text "title"]).perform (Playback.database.recording Unit)).runOn
        ⟨notes, note "seen"⟩)
      (((Request.searchable [.text "title"]).perform Playback.database).runOn ⟨notes, note "seen"⟩)
      {} sent (.ok (.ok (), ⟨notes.indexed notes.schemaColumns, note "seen"⟩)) s' ∧
    notes.Replaces notes.schemaColumns sent (.ok ()) ∧
    sent.map (·.statement.sql) = [
      "PRAGMA table_info(notes_fts)",
      "BEGIN",
      "DROP TRIGGER IF EXISTS notes_fts_ai",
      "DROP TRIGGER IF EXISTS notes_fts_ad",
      "DROP TRIGGER IF EXISTS notes_fts_au",
      "DROP TABLE IF EXISTS notes_fts",
      "CREATE VIRTUAL TABLE IF NOT EXISTS notes_fts USING fts5(title, content='notes', " ++
        "content_rowid='id')",
      "CREATE TRIGGER IF NOT EXISTS notes_fts_ai AFTER INSERT ON notes BEGIN " ++
        "INSERT INTO notes_fts(rowid, title) VALUES (new.id, new.title); END",
      "CREATE TRIGGER IF NOT EXISTS notes_fts_ad AFTER DELETE ON notes BEGIN " ++
        "INSERT INTO notes_fts(notes_fts, rowid, title) VALUES ('delete', old.id, old.title); END",
      "CREATE TRIGGER IF NOT EXISTS notes_fts_au AFTER UPDATE ON notes BEGIN " ++
        "INSERT INTO notes_fts(notes_fts, rowid, title) VALUES ('delete', old.id, old.title); " ++
        "INSERT INTO notes_fts(rowid, title) VALUES (new.id, new.title); END",
      "INSERT INTO notes_fts(notes_fts) VALUES ('rebuild')",
      "COMMIT"] := by
  have htitle : notes.schemaColumns.map Identifier.toValue = [.text "title"] := rfl
  obtain ⟨sent, ended, held', s', hs, hways, hafter⟩ := searchable_replaces Playback.database
    ⟨notes, note "seen"⟩ notes.schemaColumns (by decide) (fun _ h => h) {}
  rw [htitle] at hs
  have hanswered := Playback.unrefused_of_chain hs.chain
  have hreliable : Reliable sent :=
    ⟨fun sending hm fault hf => absurd hf (hanswered sending hm fault),
      fun sending hm _ => hanswered sending hm⟩
  obtain ⟨journal, hplain⟩ := hs.plain []
  have hsent : s'.sent = [] ++ sent.map (·.statement) := Playback.sent_of_chain hs.chain rfl
  have hended : ((((Request.searchable [.text "title"]).perform Playback.database).runOn
      ⟨notes, note "seen"⟩).runFrom ⟨{}, []⟩).1.toOption.map (·.1.toBool) = some true := by
    decide +kernel
  have htexts : sent.map (·.statement.sql) =
      ((((Request.searchable [.text "title"]).perform Playback.database).runOn
        ⟨notes, note "seen"⟩).runFrom ⟨{}, []⟩).2.state.sent.map (·.sql) := by
    refine Eq.trans ?_ (congrArg (fun run => run.2.state.sent.map (·.sql)) hplain.symm)
    rw [hsent, List.nil_append, List.map_map]
    rfl
  have hdone : ended.toBool = true :=
    Option.some.inj ((congrArg (fun run => run.1.toOption.map (·.1.toBool)) hplain).symm.trans
      hended)
  rcases hafter with ⟨rfl, rfl, -⟩ | ⟨fault, rfl, -⟩
  · exact ⟨sent, s', hs, hways hreliable, htexts.trans (by decide +kernel)⟩
  · cases hdone

end TableRecords
