import Mathlib
import TableRecords.Proofs.Search.Indexing

/-! # A catalogue of one index

A store that keeps nothing but the columns of the index of a table, and while a transaction is open
those to return to. It refuses an index that would have a column twice, and takes any other.
-/

namespace TableRecords

/-- A state of a store that keeps nothing but the columns of an index. -/
structure Catalogue where
  columns : Option {columns : List String // columns.Nodup} := none
  saved : Option (Option {columns : List String // columns.Nodup}) := none

namespace Catalogue

def refusal : Fault := .raised .operational "duplicate column name"

def declared (s : Catalogue) : Option (List String) := s.columns.map (·.val)

def returning (s : Catalogue) : Option (Option (List String)) := s.saved.map (·.map (·.val))

def row (column : String) : Fields := .ofColumns [(.text "name", .text column)]

def answer (table : Identifier) (s : Catalogue) (statement : Statement) :
    Except Fault Reply × Catalogue :=
  let columns := SearchIndex.columnsAfter table s.declared statement
  if h : ∀ names ∈ columns, names.Nodup then
    let rows := if statement.sql = (SearchIndex.info table).sql then s.declared.getD [] else []
    (.ok { rows := rows.map row }, { s with columns := columns.pmap Subtype.mk h })
  else (.error refusal, s)

def send (table : Identifier) (s : Catalogue) (statement : Statement) :
    Except Fault Reply × Catalogue :=
  match statement.sql, s.saved with
  | "BEGIN", none => (.ok {}, { s with saved := some s.columns })
  | "COMMIT", some _ => (.ok {}, { s with saved := none })
  | "ROLLBACK", some before => (.ok {}, { columns := before })
  | "BEGIN", _ | "COMMIT", _ | "ROLLBACK", _ => (.error refusal, s)
  | _, _ => answer table s statement

def database (table : Identifier) : Database Catalogue where
  store :=
    { send := send table
      inTransaction := fun s => s.saved.isSome
      close := fun s => s }
  settings := .error refusal

variable {table : Identifier} {s s' : Catalogue} {statement : Statement} {reply : Reply}

theorem plain_of_opening {opening text rest : String} (ht : text = opening ++ rest)
    (h : 2 ≤ opening.toList.length ∧
      opening.toList.take 2 ∉ [['B', 'E'], ['C', 'O'], ['R', 'O']]) :
    text ∉ ["BEGIN", "COMMIT", "ROLLBACK"] := by
  intro hm
  have htake : text.toList.take 2 = opening.toList.take 2 := by
    rw [ht, String.toList_append, List.take_append_of_le_length h.1]
  apply h.2
  rw [← htake]
  simp only [List.mem_cons, List.not_mem_nil, or_false] at hm
  rcases hm with hm | hm | hm <;> rw [hm] <;> decide

theorem plain_of_removal (h : statement ∈ SearchIndex.removal table) :
    statement.sql ∉ ["BEGIN", "COMMIT", "ROLLBACK"] := by
  simp only [SearchIndex.removal, List.mem_cons, List.not_mem_nil, or_false] at h
  rcases h with rfl | rfl | rfl | rfl
  · exact plain_of_opening String.append_assoc (by decide)
  · exact plain_of_opening String.append_assoc (by decide)
  · exact plain_of_opening String.append_assoc (by decide)
  · exact plain_of_opening rfl (by decide)

theorem command_of_creation {columns : List Identifier} (ne : columns ≠ [])
    (h : statement ∈ SearchIndex.creation table columns) :
    ∃ command ∈ SearchIndex.commands table columns, some command = readCommand statement.sql := by
  have hread : readCommand statement.sql ∈
      (SearchIndex.commands table columns).map some := by
    rw [← SearchIndex.read_creation table ne]
    exact List.mem_map_of_mem h
  exact List.mem_map.1 hread

theorem plain_of_creation {columns : List Identifier} (ne : columns ≠ [])
    (h : statement ∈ SearchIndex.creation table columns) :
    statement.sql ∉ ["BEGIN", "COMMIT", "ROLLBACK"] := by
  obtain ⟨command, -, hcommand⟩ := command_of_creation ne h
  have hunread : ∀ text ∈ ["BEGIN", "COMMIT", "ROLLBACK"], readCommand text = none := by
    decide +kernel
  intro hm
  rw [hunread _ hm] at hcommand
  cases hcommand

theorem plain_of_concerns (h : SearchIndex.Concerns table statement) :
    statement.sql ∉ ["BEGIN", "COMMIT", "ROLLBACK"] := by
  cases h with
  | info => exact plain_of_opening String.append_assoc (by decide)
  | removal hm => exact plain_of_removal hm
  | creation ne hm => exact plain_of_creation ne hm
  | search hsql => exact plain_of_opening hsql (by decide)

theorem send_plain (h : statement.sql ∉ ["BEGIN", "COMMIT", "ROLLBACK"]) :
    send table s statement = answer table s statement := by
  unfold send
  split <;> simp_all

theorem answer_ok (h : answer table s statement = (.ok reply, s')) :
    s'.declared = SearchIndex.columnsAfter table s.declared statement ∧ s'.saved = s.saved ∧
      reply.rows = (if statement.sql = (SearchIndex.info table).sql
        then s.declared.getD [] else []).map row := by
  unfold answer at h
  by_cases hn : ∀ names ∈ SearchIndex.columnsAfter table s.declared statement, names.Nodup
  · rw [dif_pos hn] at h
    cases h
    exact ⟨by simp [declared, Option.map_pmap], rfl, rfl⟩
  · rw [dif_neg hn] at h
    cases h

theorem answer_error {fault : Fault} (h : answer table s statement = (.error fault, s')) :
    fault = refusal ∧ s' = s := by
  unfold answer at h
  by_cases hn : ∀ names ∈ SearchIndex.columnsAfter table s.declared statement, names.Nodup
  · rw [dif_pos hn] at h
    cases h
  · rw [dif_neg hn] at h
    cases h
    exact ⟨rfl, rfl⟩

theorem send_error {fault : Fault} (h : send table s statement = (.error fault, s')) :
    fault = refusal ∧ s' = s := by
  unfold send at h
  split at h
  case h_7 => exact answer_error h
  all_goals
    cases h
  all_goals exact ⟨rfl, rfl⟩

theorem declared_nodup {names : List String} (h : names ∈ s.declared) : names.Nodup := by
  obtain ⟨found, -, rfl⟩ := Option.map_eq_some_iff.1 h
  exact found.2

theorem returning_eq_some {before : Option (List String)} (h : s.returning = some before) :
    ∃ columns, s.saved = some columns ∧ columns.map (·.val) = before := Option.map_eq_some_iff.1 h

theorem returning_eq_none (h : s.returning = none) : s.saved = none := Option.map_eq_none_iff.1 h

theorem keepsIndex (table : Identifier) :
    (database table).store.KeepsIndex table declared returning where
  atomic :=
    { isOpen := fun s => by cases hs : s.saved <;> simp [database, returning, hs]
      refused := fun s statement fault s' h => by
        obtain ⟨rfl, rfl⟩ := send_error h
        exact ⟨rfl, rfl, rfl⟩
      ordinary := fun s statement reply s' hc h => by
        obtain ⟨hcolumns, hsaved, -⟩ := answer_ok ((send_plain (plain_of_concerns hc)).symm.trans h)
        exact ⟨hcolumns, congrArg (Option.map _) hsaved⟩
      begun := fun s reply s' hn h => by
        change send table s Database.beginStatement = _ at h
        rw [send, returning_eq_none hn] at h
        cases h
        exact ⟨rfl, rfl⟩
      committed := fun s reply s' before hb h => by
        obtain ⟨columns, hs, -⟩ := returning_eq_some hb
        change send table s Database.commitStatement = _ at h
        rw [send, hs] at h
        cases h
        exact ⟨rfl, rfl⟩
      rolledBack := fun s reply s' before hb h => by
        obtain ⟨columns, hs, rfl⟩ := returning_eq_some hb
        change send table s Database.rollbackStatement = _ at h
        rw [send, hs] at h
        cases h
        exact ⟨rfl, rfl⟩ }
  reports s reply s' h := by
    have hplain : (SearchIndex.info table).sql ∉ ["BEGIN", "COMMIT", "ROLLBACK"] :=
      plain_of_concerns .info
    obtain ⟨-, -, hrows⟩ := answer_ok ((send_plain hplain).symm.trans h)
    rw [hrows, if_pos rfl, List.map_map]
    rfl
  distinct _ _ h := declared_nodup h

theorem answer_of_nodup
    (h : ∀ names ∈ SearchIndex.columnsAfter table s.declared statement, names.Nodup) :
    ∃ reply s', answer table s statement = (.ok reply, s') := by
  unfold answer
  rw [dif_pos h]
  exact ⟨_, _, rfl⟩

theorem nodup_of_removal (h : statement ∈ SearchIndex.removal table) :
    ∀ names ∈ SearchIndex.columnsAfter table s.declared statement, names.Nodup := by
  intro names hm
  simp only [SearchIndex.removal, List.mem_cons, List.not_mem_nil, or_false] at h
  rcases h with rfl | rfl | rfl | rfl
  · rw [SearchIndex.columnsAfter_dropTrigger] at hm
    exact declared_nodup hm
  · rw [SearchIndex.columnsAfter_dropTrigger] at hm
    exact declared_nodup hm
  · rw [SearchIndex.columnsAfter_dropTrigger] at hm
    exact declared_nodup hm
  · cases (SearchIndex.columnsAfter_drop table s.declared).symm.trans hm

theorem nodup_of_creation {columns : List Identifier} (ne : columns ≠ []) (nodup : columns.Nodup)
    (h : statement ∈ SearchIndex.creation table columns) :
    ∀ names ∈ SearchIndex.columnsAfter table s.declared statement, names.Nodup := by
  obtain ⟨command, hmember, hcommand⟩ := command_of_creation ne h
  simp only [SearchIndex.commands, List.cons_append, List.mem_cons, List.mem_append, List.mem_map,
    List.not_mem_nil, or_false] at hmember
  intro names hm
  rw [SearchIndex.columnsAfter, ← hcommand] at hm
  rcases hmember with rfl | ⟨trigger, -, rfl⟩ | rfl
  · have hdeclared : names ∈ s.declared.or (some (SearchIndex.columnNames columns)) := by
      have hname : (SearchIndex.declaration table columns).name = (SearchIndex.name table).text :=
        rfl
      dsimp only at hm
      rwa [if_pos hname] at hm
    cases hs : s.declared with
    | none =>
        rw [hs] at hdeclared
        cases hdeclared
        exact SearchQuery.nodup_columnNames nodup
    | some other =>
        rw [hs] at hdeclared
        cases hdeclared
        exact declared_nodup hs
  · exact declared_nodup hm
  · exact declared_nodup hm

/-- A catalogue takes every index that has no column twice. -/
theorem takesIndex (table : Identifier) {columns : List Identifier} (ne : columns ≠ [])
    (nodup : columns.Nodup) : (database table).store.TakesIndex table columns where
  info s := by
    have hplain : (SearchIndex.info table).sql ∉ ["BEGIN", "COMMIT", "ROLLBACK"] :=
      plain_of_concerns .info
    change ∃ reply t, send table s (SearchIndex.info table) = (.ok reply, t)
    rw [send_plain hplain]
    apply answer_of_nodup
    rw [SearchIndex.columnsAfter_info]
    exact fun names hm => declared_nodup hm
  built s statement hm := by
    change ∃ reply t, send table s statement = (.ok reply, t)
    rcases List.mem_append.1 hm with hm | hm
    · rw [send_plain (plain_of_removal hm)]
      exact answer_of_nodup (nodup_of_removal hm)
    · rw [send_plain (plain_of_creation ne hm)]
      exact answer_of_nodup (nodup_of_creation ne nodup hm)
  begun s hs := by
    change ∃ reply t, send table s Database.beginStatement = (.ok reply, t)
    have hnone : s.saved = none := by simpa [database] using hs
    rw [send, hnone]
    exact ⟨_, _, rfl⟩
  committed s hs := by
    change ∃ reply t, send table s Database.commitStatement = (.ok reply, t)
    obtain ⟨columns, hsome⟩ := Option.isSome_iff_exists.1 hs
    rw [send, hsome]
    exact ⟨_, _, rfl⟩
  rolledBack s hs := by
    change ∃ reply t, send table s Database.rollbackStatement = (.ok reply, t)
    obtain ⟨columns, hsome⟩ := Option.isSome_iff_exists.1 hs
    rw [send, hsome]
    exact ⟨_, _, rfl⟩

end Catalogue

end TableRecords
