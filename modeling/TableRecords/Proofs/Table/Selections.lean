import Mathlib
import TableRecords.Proofs.Fields
import TableRecords.Proofs.Outcome
import TableRecords.Proofs.Sql.Keys
import TableRecords.Proofs.Sql.QueryReader
import TableRecords.Proofs.Store.Guarantees
import TableRecords.Table.Rows

/-! # Selections

Six operations select rows by conditions: they list them, look at the first, count them, ask
whether there are any, delete them and change them. They write the same clause, so in a store that
keeps rows they mean the same rows; and what makes one of them fail before it sends anything makes
all of them fail.
-/

namespace TableRecords

variable {σ α : Type}

open Statement

/-- The rows that conditions select, in order; a clause selects by its text. -/
def selectedRows (rows : σ → List Fields) (selects : σ → String → Fields → Bool)
    (conditions : List Condition) (s : σ) : List Fields :=
  (rows s).filter (selects s (Condition.whereClause conditions))

/-- A store that keeps the rows of a table in order, and in which a clause selects rows. Where it
accepts a change, the rows that are not selected stay, and the others keep all columns but those
assigned. -/
structure Store.KeepsRows (store : Store σ) (table : Identifier) (rows : σ → List Fields)
    (selects : σ → String → Fields → Bool) : Prop where
  keyed : ∀ s, ∀ row ∈ rows s, row.has primaryKey.toValue = true
  everything : ∀ s, selectedRows rows selects [] s = rows s
  lists : ∀ s conditions, ∃ reply, (store.send s (rowsWhere table conditions "")).1 = .ok reply ∧
    reply.rows = selectedRows rows selects conditions s
  limits : ∀ s conditions, ∃ reply,
    (store.send s (rowsWhere table conditions " LIMIT 1")).1 = .ok reply ∧
      reply.rows = (selectedRows rows selects conditions s).take 1
  counts : ∀ s conditions, ∃ reply row name rest,
    (store.send s (countWhere table conditions)).1 = .ok reply ∧ reply.rows = [row] ∧
      row.entries = (name, .int (selectedRows rows selects conditions s).length) :: rest
  deletes : ∀ s conditions, ∃ reply s',
    store.send s (deleteWhere table conditions) = (.ok reply, s') ∧
      reply.affected = (selectedRows rows selects conditions s).length ∧
      rows s' = (rows s).filter fun row => !selects s (Condition.whereClause conditions) row
  updates : ∀ s assignments conditions reply s',
    store.send s (updateWhere table assignments conditions) = (.ok reply, s') →
      reply.affected = (selectedRows rows selects conditions s).length ∧
      List.Forall₂ (fun old new =>
        if selects s (Condition.whereClause conditions) old then
          ∀ key, (∀ a ∈ assignments, key.same a.column.toValue = false) →
            new.get? key = old.get? key
        else new = old) (rows s) (rows s')

/-! ## A shelf of rows -/

abbrev Shelf : Type := List {row : Fields // row.has primaryKey.toValue = true}

namespace Shelf

def refusal : Fault := .raised .operational "near a statement: syntax error"

/-- Whether a row satisfies an equation; nothing else is satisfied. -/
def holds (row : Fields) (fragment : Fragment) : Bool :=
  fragment.operator = "=" &&
    (row.get? (.text fragment.column)).any fun v => quote v = fragment.literal

def satisfies (fragments : List Fragment) (row : Fields) : Bool := fragments.all (holds row)

def rows (shelf : Shelf) : List Fields := shelf.map (·.1)

def selects (_shelf : Shelf) (clause : String) (row : Fields) : Bool :=
  (readWhere clause).any fun fragments => satisfies fragments row

def found (shelf : Shelf) (fragments : List Fragment) : List Fields :=
  shelf.rows.filter (satisfies fragments)

def answer (shelf : Shelf) (params : List Value) : Query → Reply × Shelf
  | .rows fragments limited =>
    ({ rows := if limited then (shelf.found fragments).take 1 else shelf.found fragments }, shelf)
  | .count fragments =>
    ({ rows := [.ofColumns [(.text "COUNT(*)", .int (shelf.found fragments).length)]] }, shelf)
  | .delete fragments =>
    ({ affected := (shelf.found fragments).length },
      shelf.filter fun row => !satisfies fragments row.1)
  | .change column fragments =>
    ({ affected := (shelf.found fragments).length },
      shelf.map fun row =>
        if satisfies fragments row.1 then
          ⟨row.1.set (.text column) (params.headD .null), Fields.has_set row.2⟩
        else row)

/-- A store that keeps the rows of a table and reads the statements that select them. -/
def store (table : Identifier) : Store Shelf where
  send shelf statement :=
    match readQuery table.text statement.sql with
    | some query => (.ok (shelf.answer statement.params query).1,
        (shelf.answer statement.params query).2)
    | none => (.error refusal, shelf)
  inTransaction _ := false
  close shelf := shelf

def notes : Shelf :=
  [⟨.ofColumns [(.text "id", .int 1), (.text "title", .text "a draft")], rfl⟩,
    ⟨.ofColumns [(.text "id", .int 2), (.text "title", .text "done")], rfl⟩]

def database (table : Identifier) : Database Shelf where
  store := store table
  settings := .error refusal

variable {table : Identifier} {shelf : Shelf} {statement : Statement} {query : Query}

theorem send_of_read (h : readQuery table.text statement.sql = some query) :
    (store table).send shelf statement = (.ok (shelf.answer statement.params query).1,
      (shelf.answer statement.params query).2) := by
  simp only [store, h]

theorem send_update (column : Identifier) {v : Value} {conditions : Pairs}
    (h : Statement.update table.toValue (some [(column.toValue, v)]) conditions = .ok statement) :
    ∃ reply t, (store table).send shelf statement = (.ok reply, t) := by
  have hassignments : Assignment.ofPairs [(column.toValue, v)] = .ok [⟨column, v⟩] := by
    refine Outcome.mapM_eq_ok.2 (.cons ?_ .nil)
    exact Outcome.bind_eq_ok.2 ⟨column, Identifier.ofValue_eq_ok.2 rfl, rfl⟩
  rw [update_eq _ _ hassignments] at h
  obtain ⟨checked, -, rfl⟩ := Outcome.map_eq_ok.1 h
  have hread := read_updateWhere table checked [⟨column, v⟩]
  rw [read_setClause_single] at hread
  exact ⟨_, _, send_of_read hread⟩

theorem selects_whereClause (shelf : Shelf) (conditions : List Condition) :
    shelf.selects (Condition.whereClause conditions) =
      satisfies (conditions.map Condition.fragment) := by
  funext row
  rw [selects, readWhere_whereClause]
  rfl

theorem selectedRows_eq (shelf : Shelf) (conditions : List Condition) :
    selectedRows rows selects conditions shelf =
      shelf.found (conditions.map Condition.fragment) := by
  rw [selectedRows, selects_whereClause]
  rfl

theorem rows_answer_delete (shelf : Shelf) (params : List Value) (fragments : List Fragment) :
    (shelf.answer params (.delete fragments)).2.rows =
      shelf.rows.filter fun row => !satisfies fragments row := by
  rw [rows, rows, List.filter_map]
  rfl

/-- A change leaves the rows that are not found, and every column but its own. -/
theorem rows_answer_change (shelf : Shelf) (params : List Value) (column : String)
    (fragments : List Fragment) :
    List.Forall₂ (fun old new =>
      if satisfies fragments old then
        ∀ key, key.same (.text column) = false → new.get? key = old.get? key
      else new = old) shelf.rows (shelf.answer params (.change column fragments)).2.rows := by
  simp only [answer, rows, List.map_map, List.forall₂_map_left_iff, List.forall₂_map_right_iff,
    List.forall₂_same]
  intro row hr
  by_cases hfound : satisfies fragments row.1 = true
  · rw [if_pos hfound, Function.comp_apply, if_pos hfound]
    intro key hkey
    rw [Fields.get_set, if_neg]
    rw [Value.same_comm, hkey]
    exact Bool.false_ne_true
  · rw [if_neg hfound, Function.comp_apply, if_neg hfound]

theorem accepted_update {assignments : List Assignment} {conditions : List Condition}
    {reply : Reply} {shelf' : Shelf}
    (h : (store table).send shelf (updateWhere table assignments conditions) =
      (.ok reply, shelf')) :
    ∃ assignment, assignments = [assignment] ∧
      readQuery table.text (updateWhere table assignments conditions).sql =
        some (.change assignment.column.text (conditions.map Condition.fragment)) := by
  have hread := read_updateWhere table conditions assignments
  cases assignments with
  | nil =>
      rw [readChange_nothing] at hread
      simp only [store, hread] at h
      cases h
  | cons assignment others =>
      cases others with
      | nil =>
          rw [read_setClause_single] at hread
          exact ⟨assignment, rfl, hread⟩
      | cons second rest =>
          rw [readChange_several] at hread
          simp only [store, hread] at h
          cases h

theorem keepsRows (table : Identifier) : (store table).KeepsRows table rows selects where
  keyed shelf row hr := by
    obtain ⟨kept, -, rfl⟩ := List.mem_map.1 hr
    exact kept.2
  everything shelf := by
    rw [selectedRows_eq]
    exact List.filter_eq_self.2 fun row _ => rfl
  lists shelf conditions := by
    refine ⟨_, congrArg Prod.fst (send_of_read (read_rowsWhere table conditions)), ?_⟩
    rw [selectedRows_eq]
    rfl
  limits shelf conditions := by
    refine ⟨_, congrArg Prod.fst (send_of_read (read_rowsWhere_limited table conditions)), ?_⟩
    rw [selectedRows_eq]
    rfl
  counts shelf conditions := by
    rw [selectedRows_eq]
    have hsend : (store table).send shelf (countWhere table conditions) = _ :=
      send_of_read (read_countWhere table conditions)
    exact ⟨_, _, _, _, congrArg Prod.fst hsend, rfl, rfl⟩
  deletes shelf conditions := by
    refine ⟨_, _, send_of_read (read_deleteWhere table conditions), ?_, ?_⟩
    · rw [selectedRows_eq]
      rfl
    · rw [rows_answer_delete, selects_whereClause]
  updates shelf assignments conditions reply shelf' h := by
    obtain ⟨assignment, rfl, hread⟩ := accepted_update h
    rw [send_of_read hread] at h
    cases h
    rw [selectedRows_eq, selects_whereClause]
    refine ⟨rfl, (rows_answer_change shelf _ _ _).imp fun old new hnew => ?_⟩
    split at hnew
    · rename_i hfound
      rw [if_pos hfound]
      exact fun key hkey => hnew key (hkey assignment List.mem_cons_self)
    · rename_i hfound
      rw [if_neg hfound]
      exact hnew

end Shelf

namespace Condition

theorem parseKey_error {key : Value} {fault : Fault} (h : parseKey key = .error fault) :
    fault.kind = .invalidIdentifier ∨ fault.kind = .invalidOperator := by
  cases parseKey_error_reading.1 h with
  | noName _ _ => exact Or.inl rfl
  | noColumn _ _ => exact Or.inl rfl
  | noOperator _ _ => exact Or.inr rfl

/-- The first key of a mapping that is none is what makes its conditions fail. -/
theorem ofPairs_error {conditions : Pairs} {fault : Fault}
    (h : ofPairs conditions = .error fault) : ∃ before entry after,
      conditions = before ++ entry :: after ∧
      (∀ other ∈ before, ∃ parsed, parseKey other.1 = .ok parsed) ∧
      parseKey entry.1 = .error fault := by
  obtain ⟨before, entry, after, hsplit, hbefore, hentry⟩ := ofPairs_eq_error.1 h
  exact ⟨before, entry, after, hsplit, fun other ho => isKey_iff.1 (hbefore other ho),
    parseKey_error_reading.2 hentry⟩

end Condition

theorem Assignment.exists_ofPairs {attrs : Pairs}
    (h : ∀ entry ∈ attrs, ∃ column : Identifier, entry.1 = column.toValue) :
    ∃ assignments, ofPairs attrs = .ok assignments ∧
      ∀ a ∈ assignments, ∃ entry ∈ attrs, entry.1 = a.column.toValue := by
  obtain ⟨assignments, hall⟩ : ∃ assignments, ofPairs attrs = .ok assignments := by
    refine Outcome.mapM_ok_of_forall fun entry he => ?_
    obtain ⟨column, hcolumn⟩ := h entry he
    have hvalue : Identifier.ofValue "column" entry.1 = .ok column :=
      Identifier.ofValue_eq_ok.2 hcolumn
    exact ⟨⟨column, entry.2⟩, Outcome.bind_eq_ok.2 ⟨column, hvalue, rfl⟩⟩
  refine ⟨assignments, hall, fun a ha => ?_⟩
  obtain ⟨entry, he, hentry⟩ := Outcome.mem_of_mapM hall ha
  obtain ⟨column, hcolumn, hmade⟩ := Outcome.bind_eq_ok.1 hentry
  cases hmade
  exact ⟨entry, he, Identifier.ofValue_eq_ok.1 hcolumn⟩

namespace Table

section Agreement

variable (table : Table) (db : Database σ) (conditions attrs : Pairs) (session : Session σ)

/-- Whether the operations fail with one fault and send nothing. -/
structure RefuseAlike (fault : Fault) : Prop where
  filter : (table.filter db conditions).runFrom session = (.error fault, session)
  first : (table.first db conditions).runFrom session = (.error fault, session)
  tally : (table.tally db conditions).runFrom session = (.error fault, session)
  existence : (table.exists? db conditions).runFrom session = (.error fault, session)
  destroy : (table.destroy db conditions).runFrom session = (.error fault, session)
  updateAll : (table.updateAll db conditions attrs).runFrom session = (.error fault, session)

/-- Whether a row may have become another: one that is not selected stays, one that is keeps every
column to which nothing is assigned. -/
def Becomes (attrs : Pairs) (selected : Fields → Bool) (old new : Fields) : Prop :=
  if selected old then
    ∀ key, (∀ entry ∈ attrs, key.same entry.1 = false) → new.get? key = old.get? key
  else new = old

/-- Whether the operations mean the same rows: each comes to what the records found say, and those
that change rows change no others. -/
structure SelectAlike (rows : σ → List Fields) (selected : Fields → Bool) (found : List Record) :
    Prop where
  records : found.map (·.fields) = (rows session.state).filter selected
  filter : ((table.filter db conditions).runFrom session).1 = .ok found
  first : ((table.first db conditions).runFrom session).1 = .ok found.head?
  tally : ((table.tally db conditions).runFrom session).1 = .ok (found.length : Int)
  existence : ((table.exists? db conditions).runFrom session).1 = .ok (!found.isEmpty)
  destroy : ((table.destroy db conditions).runFrom session).1 = .ok (found.length : Int)
  kept : rows ((table.destroy db conditions).runFrom session).2.state =
    (rows session.state).filter fun row => !selected row
  updateAll : ((table.updateAll db conditions attrs).runFrom session).1 = .ok (found.length : Int)
  updated : List.Forall₂ (Becomes attrs selected) (rows session.state)
    (rows ((table.updateAll db conditions attrs).runFrom session).2.state)
  everything : conditions = [] → ((table.list db).runFrom session).1 = .ok found ∧
    found.map (·.fields) = rows session.state

end Agreement

variable {db : Database σ} {table : Table} {session : Session σ} {s t : σ} {statement : Statement}
  {reply : Reply} {rows : σ → List Fields} {selects : σ → String → Fields → Bool}
  {conditions attrs : Pairs} {checked : List Condition} {found : List Record}

theorem ofRow_of_keyed (table : Table) {row : Fields} (h : row.has primaryKey.toValue = true) :
    ∃ record, Record.ofRow table.name.toValue row none = .ok record ∧ record.fields = row :=
  ⟨⟨table.name.toValue, row, h, none, false⟩, dif_pos h, rfl⟩

theorem records_of_keyed (table : Table) {rows : List Fields}
    (h : ∀ row ∈ rows, row.has primaryKey.toValue = true) :
    ∃ found, rows.mapM (fun row => Record.ofRow table.name.toValue row none) = .ok found ∧
      found.map (·.fields) = rows := by
  induction rows with
  | nil => exact ⟨[], rfl, rfl⟩
  | cons row rows ih =>
      obtain ⟨record, hrecord, hfields⟩ := ofRow_of_keyed table (h row List.mem_cons_self)
      obtain ⟨found, hfound, hrows⟩ := ih fun other ho => h other (List.mem_cons_of_mem row ho)
      refine ⟨record :: found, ?_, by rw [List.map_cons, hfields, hrows]⟩
      rw [List.mapM_cons, hrecord, hfound]
      rfl

theorem gives_records (hs : db.store.send s statement = (.ok reply, t))
    (hf : reply.rows.mapM (fun row => Record.ofRow table.name.toValue row none) = .ok found) :
    (table.records db (.ok statement)).Gives s found t := by
  refine (Action.Gives.ofExcept rfl).bind ((Database.gives_query hs).bind ?_)
  unfold wrap
  rw [Action.mapM_ofExcept]
  exact .ofExcept ⟨hf, rfl⟩

theorem gives_firstRecord {rows : List Fields} (hs : db.store.send s statement = (.ok reply, t))
    (hr : reply.rows = rows.take 1)
    (hf : rows.mapM (fun row => Record.ofRow table.name.toValue row none) = .ok found) :
    (table.firstRecord db (.ok statement)).Gives s found.head? t := by
  refine (Action.Gives.ofExcept rfl).bind ((Database.gives_queryRow hs).bind ?_)
  rw [hr]
  cases rows with
  | nil =>
      cases hf
      exact .pure ⟨rfl, rfl⟩
  | cons row rest =>
      rw [List.mapM_cons] at hf
      obtain ⟨record, hrecord, hf⟩ := Outcome.bind_eq_ok.1 hf
      obtain ⟨others, -, hf⟩ := Outcome.bind_eq_ok.1 hf
      cases hf
      have hwrap : (table.wrap row : Action σ Record).Gives t record t := .ofExcept hrecord
      exact hwrap.bind (.pure ⟨rfl, rfl⟩)

theorem gives_tally {row : Fields} {name : Value} {rest : Pairs} {n : Nat}
    (hc : Statement.count table.name.toValue conditions = .ok statement)
    (hs : db.store.send s statement = (.ok reply, t)) (hr : reply.rows = [row])
    (he : row.entries = (name, .int n) :: rest) :
    (table.tally db conditions).Gives s (n : Int) t := by
  have hscalar : (db.queryScalar statement).Gives s (.int n) t := by
    refine (Database.gives_queryRow hs).bind ?_
    rw [hr]
    refine .ofExcept ⟨?_, rfl⟩
    rw [Database.firstColumn, he]
  refine (Action.Gives.ofExcept hc).bind (hscalar.bind ?_)
  by_cases hn : n = 0
  · rw [if_neg (by simp [Value.isTruthy, hn])]
    exact .pure ⟨by simp [hn], rfl⟩
  · rw [if_pos (by simp [Value.isTruthy, hn])]
    exact .ofExcept ⟨rfl, rfl⟩

theorem gives_exists {n : Int} (h : (table.tally db conditions).Gives s n t) :
    (table.exists? db conditions).Gives s (decide (0 < n)) t := h.bind (.pure ⟨rfl, rfl⟩)

theorem gives_change {n : Nat} {message : String} (hs : db.store.send s statement = (.ok reply, t))
    (hn : reply.affected = n) : (table.change db statement message).Gives s (n : Int) t := by
  have hmax : max reply.affected 0 = (n : Int) := by omega
  have hexecute := Database.gives_execute hs
  rw [hmax] at hexecute
  exact hexecute.bind ((Action.Gives.log _).bind (.pure ⟨rfl, rfl⟩))

/-! ## Agreement -/

theorem runFrom_refused {α β : Type} {outcome : Except Fault α} {next : α → Action σ β}
    {fault : Fault} (h : outcome = .error fault) :
    (Action.ofExcept outcome >>= next).runFrom session = (.error fault, session) := by
  rw [h]
  exact Action.runFrom_bind_error rfl

theorem refuseAlike_of_error {fault : Fault} (ne : attrs ≠ [])
    (valid : ∀ entry ∈ attrs, ∃ column : Identifier, entry.1 = column.toValue)
    (h : Condition.ofPairs conditions = .error fault) :
    table.RefuseAlike db conditions attrs session fault := by
  obtain ⟨assignments, hassignments, -⟩ := Assignment.exists_ofPairs valid
  have hlimit : limitClause none = .ok "" := rfl
  have hcount : Statement.count table.name.toValue conditions = .error fault := by
    rw [count_eq, h]
    rfl
  have htally : (table.tally db conditions).runFrom session = (.error fault, session) :=
    runFrom_refused hcount
  constructor
  · apply runFrom_refused
    rw [select_eq _ _ hlimit, h]
    rfl
  · apply runFrom_refused
    rw [select_eq _ _ limitClause_one, h]
    rfl
  · exact htally
  · exact Action.runFrom_bind_error htally
  · apply runFrom_refused
    rw [delete_eq, h]
    rfl
  · unfold updateAll
    rw [if_neg (by simpa using ne)]
    apply runFrom_refused
    rw [update_eq _ _ hassignments, h]
    rfl

theorem filter_gives (hdb : db.store.KeepsRows table.name rows selects)
    (h : Condition.ofPairs conditions = .ok checked)
    (hf : (selectedRows rows selects checked s).mapM
      (fun row => Record.ofRow table.name.toValue row none) = .ok found) :
    ∃ t, (table.filter db conditions).Gives s found t := by
  obtain ⟨reply, hs, hrows⟩ := hdb.lists s checked
  have hlimit : limitClause none = .ok "" := rfl
  unfold filter
  rw [select_eq _ _ hlimit, h]
  exact ⟨_, gives_records (Prod.ext hs rfl) (by rw [hrows, hf])⟩

theorem first_gives (hdb : db.store.KeepsRows table.name rows selects)
    (h : Condition.ofPairs conditions = .ok checked)
    (hf : (selectedRows rows selects checked s).mapM
      (fun row => Record.ofRow table.name.toValue row none) = .ok found) :
    ∃ t, (table.first db conditions).Gives s found.head? t := by
  obtain ⟨reply, hs, hrows⟩ := hdb.limits s checked
  unfold first
  rw [select_eq _ _ limitClause_one, h]
  exact ⟨_, gives_firstRecord (Prod.ext hs rfl) hrows hf⟩

theorem tally_gives (hdb : db.store.KeepsRows table.name rows selects)
    (h : Condition.ofPairs conditions = .ok checked) :
    ∃ t, (table.tally db conditions).Gives s (selectedRows rows selects checked s).length t := by
  obtain ⟨reply, row, name, rest, hs, hrow, hentries⟩ := hdb.counts s checked
  have hcount : Statement.count table.name.toValue conditions =
      .ok (countWhere table.name checked) := by
    rw [count_eq, h]
    rfl
  exact ⟨_, gives_tally hcount (Prod.ext hs rfl) hrow hentries⟩

theorem destroy_gives (hdb : db.store.KeepsRows table.name rows selects)
    (h : Condition.ofPairs conditions = .ok checked) :
    ∃ t, (table.destroy db conditions).Gives s (selectedRows rows selects checked s).length t ∧
      rows t = (rows s).filter fun row => !selects s (Condition.whereClause checked) row := by
  obtain ⟨reply, t, hs, haffected, hrows⟩ := hdb.deletes s checked
  have hdelete : Statement.delete table.name.toValue conditions =
      .ok (deleteWhere table.name checked) := by
    rw [delete_eq, h]
    rfl
  exact ⟨t, (Action.Gives.ofExcept hdelete).bind (gives_change hs haffected), hrows⟩

/-- A change of the selected rows, if the store accepts it. -/
theorem updateAll_gives (hdb : db.store.KeepsRows table.name rows selects) (ne : attrs ≠ [])
    (valid : ∀ entry ∈ attrs, ∃ column : Identifier, entry.1 = column.toValue)
    (h : Condition.ofPairs conditions = .ok checked)
    (accepted : ∀ statement,
      Statement.update table.name.toValue (some attrs) conditions = .ok statement →
        ∃ reply t, db.store.send s statement = (.ok reply, t)) :
    ∃ t, (table.updateAll db conditions attrs).Gives s
        (selectedRows rows selects checked s).length t ∧
      List.Forall₂ (Becomes attrs (selects s (Condition.whereClause checked))) (rows s)
        (rows t) := by
  obtain ⟨assignments, hassignments, hcolumns⟩ := Assignment.exists_ofPairs valid
  have hupdate : Statement.update table.name.toValue (some attrs) conditions =
      .ok (updateWhere table.name assignments checked) := by
    rw [update_eq _ _ hassignments, h]
    rfl
  obtain ⟨reply, t, hs⟩ := accepted _ hupdate
  obtain ⟨haffected, hrows⟩ := hdb.updates s assignments checked reply t hs
  refine ⟨t, ?_, hrows.imp fun old new hnew => ?_⟩
  · unfold updateAll
    rw [if_neg (by simpa using ne)]
    exact (Action.Gives.ofExcept hupdate).bind (gives_change hs haffected)
  · unfold Becomes
    split at hnew
    · rename_i hselected
      rw [if_pos hselected]
      intro key hkey
      refine hnew key fun a ha => ?_
      obtain ⟨entry, he, hentry⟩ := hcolumns a ha
      rw [← hentry]
      exact hkey entry he
    · rename_i hselected
      rw [if_neg hselected]
      exact hnew

theorem selectAlike_of_ok (hdb : db.store.KeepsRows table.name rows selects) (ne : attrs ≠ [])
    (valid : ∀ entry ∈ attrs, ∃ column : Identifier, entry.1 = column.toValue)
    (h : Condition.ofPairs conditions = .ok checked)
    (accepted : ∀ statement,
      Statement.update table.name.toValue (some attrs) conditions = .ok statement →
        ∃ reply t, db.store.send session.state statement = (.ok reply, t)) :
    ∃ found, table.SelectAlike db conditions attrs session rows
      (selects session.state (Condition.whereClause checked)) found := by
  have hkeyed : ∀ row ∈ selectedRows rows selects checked session.state,
      row.has primaryKey.toValue = true :=
    fun row hr => hdb.keyed _ row (List.mem_filter.1 hr).1
  obtain ⟨found, hfound, hfields⟩ := records_of_keyed table hkeyed
  have hlength : (selectedRows rows selects checked session.state).length = found.length := by
    rw [← hfields, List.length_map]
  obtain ⟨t₁, hfilter⟩ := filter_gives hdb h hfound
  obtain ⟨t₂, hfirst⟩ := first_gives hdb h hfound
  obtain ⟨t₃, htally⟩ := tally_gives (s := session.state) hdb h
  obtain ⟨t₄, hdestroy, hkept⟩ := destroy_gives (s := session.state) hdb h
  obtain ⟨t₅, hupdate, hupdated⟩ := updateAll_gives hdb ne valid h accepted
  rw [hlength] at htally hdestroy hupdate
  have hdestroyed := hdestroy.of_session
  have hchanged := hupdate.of_session
  refine ⟨found, hfields, (hfilter.of_session).1, (hfirst.of_session).1,
    (htally.of_session).1, ?_, hdestroyed.1, ?_, hchanged.1, ?_, ?_⟩
  · have hnonempty : decide (0 < (found.length : Int)) = !found.isEmpty := by
      cases found with
      | nil => rfl
      | cons record others => simp
    rw [← hnonempty]
    exact ((gives_exists htally).of_session).1
  · rw [hdestroyed.2]
    exact hkept
  · rw [hchanged.2]
    exact hupdated
  · rintro rfl
    cases h
    -- a list is the same selection without conditions
    exact ⟨(hfilter.of_session).1, hfields.trans (hdb.everything session.state)⟩

/-- The operations that take conditions agree. Either the first key that is none makes all of them
fail with the same fault, or all of them mean the rows that the clause selects. -/
theorem operations_agree (hdb : db.store.KeepsRows table.name rows selects) (ne : attrs ≠ [])
    (valid : ∀ entry ∈ attrs, ∃ column : Identifier, entry.1 = column.toValue)
    (accepted : ∀ statement,
      Statement.update table.name.toValue (some attrs) conditions = .ok statement →
        ∃ reply t, db.store.send session.state statement = (.ok reply, t)) :
    (∃ before entry after fault, conditions = before ++ entry :: after ∧
      (∀ other ∈ before, ∃ parsed, Condition.parseKey other.1 = .ok parsed) ∧
      Condition.parseKey entry.1 = .error fault ∧
      (fault.kind = .invalidIdentifier ∨ fault.kind = .invalidOperator) ∧
      table.RefuseAlike db conditions attrs session fault) ∨
    ∃ checked found, Condition.ofPairs conditions = .ok checked ∧
      table.SelectAlike db conditions attrs session rows
        (selects session.state (Condition.whereClause checked)) found := by
  cases h : Condition.ofPairs conditions with
  | error fault =>
      obtain ⟨before, entry, after, hsplit, hbefore, hentry⟩ := Condition.ofPairs_error h
      exact Or.inl ⟨before, entry, after, fault, hsplit, hbefore, hentry,
        Condition.parseKey_error hentry, refuseAlike_of_error ne valid h⟩
  | ok checked =>
      obtain ⟨found, hfound⟩ := selectAlike_of_ok hdb ne valid h accepted
      exact Or.inr ⟨checked, found, rfl, hfound⟩

theorem draft_operations_agree : ∃ checked found,
    Condition.ofPairs [(.text "title", .text "a draft")] = .ok checked ∧ found.length = 1 ∧
    SelectAlike ⟨⟨"notes", by decide⟩, [], none⟩ (Shelf.database ⟨"notes", by decide⟩)
      [(.text "title", .text "a draft")] [(.text "title", .text "done")] ⟨Shelf.notes, []⟩
      Shelf.rows (Shelf.notes.selects (Condition.whereClause checked)) found := by
  have hdb : (Shelf.database ⟨"notes", by decide⟩).store.KeepsRows
      (Table.name ⟨⟨"notes", by decide⟩, [], none⟩) Shelf.rows Shelf.selects := Shelf.keepsRows _
  have hattrs : ∀ entry ∈ [((.text "title", .text "done") : Value × Value)],
      ∃ column : Identifier, entry.1 = column.toValue := by
    intro entry he
    rw [List.mem_singleton.1 he]
    exact ⟨⟨"title", by decide⟩, rfl⟩
  have haccepted : ∀ statement,
      Statement.update (Table.name ⟨⟨"notes", by decide⟩, [], none⟩).toValue
        (some [(.text "title", .text "done")]) [(.text "title", .text "a draft")] = .ok statement →
          ∃ reply t, (Shelf.database ⟨"notes", by decide⟩).store.send
            (Session.state ⟨Shelf.notes, []⟩) statement = (.ok reply, t) :=
    fun _ h => Shelf.send_update ⟨"title", by decide⟩ h
  have hkey : Condition.parseKey (.text "title") = .ok (⟨"title", by decide⟩, .equals) := rfl
  have hconditions : Condition.ofPairs [(.text "title", .text "a draft")] =
      .ok [⟨⟨"title", by decide⟩, .equals, .text "a draft"⟩] := rfl
  rcases operations_agree hdb (List.cons_ne_nil _ _) hattrs haccepted with
      ⟨before, entry, after, fault, hsplit, -, hentry, -⟩ | ⟨checked, found, hchecked, hall⟩
  · have hmem : entry ∈ [((.text "title", .text "a draft") : Value × Value)] := by
      rw [hsplit]
      exact List.mem_append_right _ List.mem_cons_self
    rw [List.mem_singleton.1 hmem, hkey] at hentry
    cases hentry
  · refine ⟨checked, found, hchecked, ?_, hall⟩
    cases hconditions.symm.trans hchecked
    have hlength := congrArg List.length hall.records
    rw [List.length_map, Shelf.selects_whereClause] at hlength
    rw [hlength]
    decide +kernel

end Table

end TableRecords
