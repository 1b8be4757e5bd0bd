import Mathlib
import TableRecords.Proofs.Record.Lifecycle
import TableRecords.Proofs.Sql.Words
import TableRecords.Table.Rows
import TableRecords.Table.Search

/-! # Refusals

An operation refuses names, operators, columns and calls at the wrong time. It does so before it
asks the store for anything: once a statement was sent, nothing that follows is refused, and what
fails then fails for another reason.
-/

namespace TableRecords

variable {σ α β γ : Type}

/-- The kinds of fault that refuse an argument, or a call for what cannot be done. -/
def FaultKind.isRefusal : FaultKind → Bool
  | invalidIdentifier | invalidOperator | reservedColumn | searchNotEnabled | recordDeleted => true
  | _ => false

def Fault.isRefusal (fault : Fault) : Bool := fault.kind.isRefusal

/-- Whether the store answers a statement with no fault but one of its own. -/
def Sending.IsOwn (sending : Sending) : Prop :=
  ∀ fault, sending.outcome = .error fault →
    fault.isStoreError = true ∨ fault.kind = .storeWarning

theorem Sending.IsOwn.not_refusal {sending : Sending} (h : sending.IsOwn) {fault : Fault}
    (hf : sending.outcome = .error fault) : fault.isRefusal = false := by
  have hkind : ∀ kind : FaultKind, kind.isStoreError = true ∨ kind = .storeWarning →
      kind.isRefusal = false := by
    intro kind
    cases kind <;> decide
  exact hkind fault.kind (h fault hf)

def OwnFaults (sent : List Sending) : Prop := ∀ sending ∈ sent, sending.IsOwn

theorem OwnFaults.not_refusal {sent : List Sending} (h : OwnFaults sent) {fault : Fault}
    (hf : Store.Faulted sent fault) : fault.isRefusal = false := by
  obtain ⟨sending, hm, ho⟩ := hf
  exact (h sending hm).not_refusal ho

theorem ownFaults_append {sent more : List Sending} (h : OwnFaults (sent ++ more)) :
    OwnFaults sent ∧ OwnFaults more :=
  ⟨fun sending hm => h sending (List.mem_append_left _ hm),
    fun sending hm => h sending (List.mem_append_right _ hm)⟩

/-- Whether an outcome is a value, or a fault that refuses nothing. -/
def Unrefused (outcome : Except Fault α) : Prop :=
  ∀ fault, outcome = .error fault → fault.isRefusal = false

namespace Unrefused

theorem ok (a : α) : Unrefused (.ok a) := by
  intro fault h
  cases h

theorem error {fault : Fault} (h : fault.isRefusal = false) :
    Unrefused (.error fault : Except Fault α) := by
  intro other ho
  cases ho
  exact h

theorem bind {outcome : Except Fault α} {next : α → Except Fault β} (h : Unrefused outcome)
    (hn : ∀ a, Unrefused (next a)) : Unrefused (outcome >>= next) := by
  cases outcome with
  | ok a => exact hn a
  | error fault => exact error (h fault rfl)

theorem map {outcome : Except Fault α} (h : Unrefused outcome) (f : α → β) :
    Unrefused (f <$> outcome) := by
  cases outcome with
  | ok a => exact ok _
  | error fault => exact error (h fault rfl)

theorem mapM {f : α → Except Fault β} (h : ∀ a, Unrefused (f a)) (as : List α) :
    Unrefused (as.mapM f) := by
  induction as with
  | nil => exact ok []
  | cons a as ih =>
      rw [List.mapM_cons]
      exact (h a).bind fun b => ih.bind fun bs => ok _

theorem firstColumn (row : Fields) : Unrefused (Database.firstColumn row) := by
  unfold Database.firstColumn
  split
  · exact error rfl
  · exact ok _

theorem isPositive (v : Value) : Unrefused (Database.isPositive v) := by
  unfold Database.isPositive
  split
  · exact error rfl
  all_goals first | exact ok _ | exact error rfl

theorem ofNumeral (v : Value) (digit? : Char → Option Nat) (cs : List Char) :
    Unrefused (Value.toInteger.ofNumeral v digit? cs) := by
  unfold Value.toInteger.ofNumeral
  dsimp only
  split
  · exact error rfl
  · split_ifs
    · exact error rfl
    · exact ok _
    · exact error rfl

theorem toInteger (v : Value) : Unrefused v.toInteger := by
  unfold Value.toInteger
  split
  case h_5 | h_6 => exact ofNumeral _ _ _
  case h_3 | h_4 => split <;> first | exact ok _ | exact error rfl
  all_goals first | exact ok _ | exact error rfl

theorem ofRow (table : Value) (fields : Fields) (annotations : Option Annotations) :
    Unrefused (Record.ofRow table fields annotations) := by
  unfold Record.ofRow
  split
  · exact ok _
  · exact error rfl

theorem columnOf (column : Identifier) (row : Fields) : Unrefused (Table.columnOf column row) := by
  unfold Table.columnOf
  split
  · exact ok _
  · exact error rfl

theorem indexedColumn (row : Fields) : Unrefused (Table.indexedColumn row) := by
  unfold Table.indexedColumn
  split
  · exact ok _
  · exact error rfl

theorem nameText (key : Value) : Unrefused key.nameText := by
  unfold Value.nameText
  split
  · exact ok _
  · exact error rfl
  · exact error rfl

theorem mapError_rejected (outcome : Except (List Problem) α) :
    Unrefused (outcome.mapError Fault.rejected) := by
  cases outcome with
  | ok a => exact ok a
  | error problems => exact error rfl

theorem split (row : Option Fields) : Unrefused (Annotations.split row) := by
  unfold Annotations.split
  cases row with
  | none => exact error rfl
  | some row =>
      have hnames : Unrefused (Annotations.namedColumns row) :=
        mapM (fun entry => (nameText _).map _) _
      refine hnames.bind fun columns => ?_
      split
      · exact error rfl
      · exact (mapError_rejected _).bind fun annotations => ok _

theorem wrapHit (table : Table) (row : Fields) : Unrefused (table.wrapHit row) :=
  (split (some row)).bind fun _ => ofRow _ _ _

/-- Identifiers are accepted wherever one is asked for. -/
theorem ofIdentifier (context : String) (name : Identifier) :
    Unrefused (Identifier.ofValue context name.toValue) := by
  have h : Identifier.ofValue context name.toValue = .ok name := Identifier.ofValue_eq_ok.2 rfl
  rw [h]
  exact ok name

theorem selectById (table : Identifier) (id : Value) :
    Unrefused (Statement.selectById table.toValue id) :=
  (ofIdentifier "table" table).bind fun _ => ok _

theorem creationOf (table : Identifier) (columns : List Identifier) :
    Unrefused (SearchIndex.creationOf table.toValue (columns.map (·.toValue))) := by
  refine (ofIdentifier "table" table).bind fun _ => bind ?_ fun _ => ok _
  unfold SearchIndex.columnsOf
  split
  · exact error rfl
  · rw [Identifier.ofValues, List.mapM_map]
    exact mapM (fun column => ofIdentifier "column" column) columns

end Unrefused

/-- An action that refuses nothing, whatever the store answers. -/
def Database.NeverRefuses (db : Database σ) (noted : Action (σ × List (Event Unit)) β)
    (plain : Action σ β) : Prop :=
  db.Always noted plain fun sent outcome => OwnFaults sent → Unrefused outcome

/-- An action that sends nothing if it refuses. -/
def Database.RefusesFirst (db : Database σ) (noted : Action (σ × List (Event Unit)) β)
    (plain : Action σ β) : Prop :=
  db.Always noted plain fun sent outcome => OwnFaults sent →
    ∀ fault, outcome = .error fault → fault.isRefusal = true → sent = []

variable {db : Database σ} {noted : Action (σ × List (Event Unit)) β} {plain : Action σ β}
  {next : β → Action (σ × List (Event Unit)) γ} {next' : β → Action σ γ} {outcome : Except Fault β}

namespace Database.NeverRefuses

theorem refusesFirst (h : db.NeverRefuses noted plain) : db.RefusesFirst noted plain :=
  h.imp fun _ _ hu hown fault hf hr => absurd hr (by simp [hu hown fault hf])

theorem ofExcept (h : Unrefused outcome) :
    db.NeverRefuses (Action.ofExcept outcome) (Action.ofExcept outcome) :=
  Always.ofExcept fun _ => h

theorem pure (b : β) : db.NeverRefuses (Pure.pure b) (Pure.pure b) := ofExcept (.ok b)

theorem log (entry : Entry) : db.NeverRefuses (Action.log entry) (Action.log entry) :=
  Always.log entry fun _ => .ok ()

theorem bind (h : db.NeverRefuses noted plain) (hn : ∀ b, db.NeverRefuses (next b) (next' b)) :
    db.NeverRefuses (noted >>= next) (plain >>= next') := by
  refine Always.bind h (fun sent fault hu hown => ?_) fun sent b _ => (hn b).imp ?_
  · exact .error (hu hown fault rfl)
  · exact fun more result hu hown => hu (ownFaults_append hown).2

theorem run (statement : Statement) :
    db.NeverRefuses ((db.recording Unit).run statement) (db.run statement) :=
  Always.run statement fun sending _ hown _ hf => (hown sending (by simp)).not_refusal hf

theorem transaction {noted : Action (σ × List (Event Unit)) Unit} {plain : Action σ Unit}
    (h : db.NeverRefuses noted plain) :
    db.NeverRefuses ((db.recording Unit).transaction noted) (db.transaction plain) := by
  refine Always.transaction h (fun _ _ hu => hu) ?_ ?_
  · intro sending fault _ hf hown
    exact .error ((hown sending (by simp)).not_refusal hf)
  · intro opening sent ended _ closing result _ _ hu hc hown fault hresult
    obtain ⟨hsent, hclosing⟩ := ownFaults_append (fun x hx => hown x (List.mem_cons_of_mem _ hx))
    rw [hresult] at hc
    rcases hc.faulted with hf | ⟨cause, hcause, rfl⟩
    · exact hclosing.not_refusal hf
    · unfold reported
      split
      · rfl
      · exact hu hsent cause hcause

theorem execute (statement : Statement) :
    db.NeverRefuses ((db.recording Unit).execute statement) (db.execute statement) :=
  (run statement).bind fun _ => pure _

theorem executeAll (statements : List Statement) :
    db.NeverRefuses ((db.recording Unit).executeAll statements) (db.executeAll statements) := by
  induction statements with
  | nil => exact pure ()
  | cons statement rest ih => exact (execute statement).bind fun _ => ih

theorem query (statement : Statement) :
    db.NeverRefuses ((db.recording Unit).query statement) (db.query statement) :=
  (run statement).bind fun _ => pure _

theorem queryRow (statement : Statement) :
    db.NeverRefuses ((db.recording Unit).queryRow statement) (db.queryRow statement) :=
  (run statement).bind fun _ => pure _

theorem queryScalar (statement : Statement) :
    db.NeverRefuses ((db.recording Unit).queryScalar statement) (db.queryScalar statement) := by
  refine (queryRow statement).bind fun row => ?_
  cases row with
  | none => exact pure _
  | some row => exact ofExcept (.firstColumn row)

theorem hasTable (name : Value) :
    db.NeverRefuses ((db.recording Unit).hasTable name) (db.hasTable name) :=
  (queryScalar _).bind fun found => ofExcept (.isPositive found)

end Database.NeverRefuses

namespace Database.RefusesFirst

theorem ofExcept (outcome : Except Fault β) :
    db.RefusesFirst (Action.ofExcept outcome) (Action.ofExcept outcome) :=
  Always.ofExcept fun _ _ _ _ => rfl

theorem pure (b : β) : db.RefusesFirst (Pure.pure b) (Pure.pure b) := ofExcept (.ok b)

theorem ofExcept_bind (h : ∀ b, outcome = .ok b → db.RefusesFirst (next b) (next' b)) :
    db.RefusesFirst (Action.ofExcept outcome >>= next) (Action.ofExcept outcome >>= next') :=
  Always.ofExcept_bind (fun _ _ _ _ _ _ => rfl) h

theorem log_bind {next : Unit → Action (σ × List (Event Unit)) γ} {next' : Unit → Action σ γ}
    (entry : Entry) (h : db.RefusesFirst (next ()) (next' ())) :
    db.RefusesFirst (Action.log entry >>= next) (Action.log entry >>= next') :=
  Always.log_bind entry h

theorem map (h : db.RefusesFirst noted plain) (f : β → γ) : db.Always noted plain
    fun sent outcome => OwnFaults sent →
      ∀ fault, f <$> outcome = .error fault → fault.isRefusal = true → sent = [] :=
  h.imp fun _ _ hfirst hown fault hf => hfirst hown fault (Outcome.map_eq_error.1 hf)

theorem bind (h : db.RefusesFirst noted plain) (hn : ∀ b, db.NeverRefuses (next b) (next' b)) :
    db.RefusesFirst (noted >>= next) (plain >>= next') := by
  refine Always.bind h (fun sent fault hr hown other hf => ?_) fun sent b _ => (hn b).imp ?_
  · cases hf
    exact hr hown fault rfl
  · intro more result hu hown fault hf hrefusal
    exact absurd hrefusal (by simp [hu (ownFaults_append hown).2 fault hf])

end Database.RefusesFirst

/-! ## Operations -/

namespace Table

open Database (NeverRefuses RefusesFirst)

variable (table : Table)

theorem refusesFirst_define (name : Value) (schema : Option Pairs) :
    db.RefusesFirst (define (db.recording Unit) name schema) (define db name schema) := by
  refine .ofExcept_bind fun identifier _ => .ofExcept_bind fun statement _ =>
    .ofExcept_bind fun columns _ => NeverRefuses.refusesFirst ?_
  refine (NeverRefuses.hasTable name).bind fun found =>
    (NeverRefuses.execute statement).bind fun _ => ?_
  split
  · exact (NeverRefuses.log _).bind fun _ => .pure _
  · exact .pure _

theorem neverRefuses_wrap (row : Fields) :
    db.NeverRefuses (table.wrap row) (table.wrap row) := .ofExcept (.ofRow _ _ _)

theorem neverRefuses_wrapAll (rows : List Fields) :
    db.NeverRefuses (rows.mapM table.wrap) (rows.mapM table.wrap) := by
  unfold wrap
  rw [Action.mapM_ofExcept, Action.mapM_ofExcept]
  exact .ofExcept (.mapM (fun row => .ofRow _ row _) rows)

theorem refusesFirst_records (statement : Except Fault Statement) :
    db.RefusesFirst (table.records (db.recording Unit) statement) (table.records db statement) :=
  .ofExcept_bind fun statement _ => ((NeverRefuses.query statement).bind
    fun rows => table.neverRefuses_wrapAll rows).refusesFirst

theorem neverRefuses_firstRecord {statement : Except Fault Statement} (h : Unrefused statement) :
    db.NeverRefuses (table.firstRecord (db.recording Unit) statement)
      (table.firstRecord db statement) := by
  refine (NeverRefuses.ofExcept h).bind fun statement =>
    (NeverRefuses.queryRow statement).bind fun row => ?_
  cases row with
  | none => exact .pure none
  | some row => exact (table.neverRefuses_wrap row).bind fun _ => .pure _

theorem refusesFirst_firstRecord (statement : Except Fault Statement) :
    db.RefusesFirst (table.firstRecord (db.recording Unit) statement)
      (table.firstRecord db statement) := by
  cases statement with
  | ok statement => exact (table.neverRefuses_firstRecord (.ok statement)).refusesFirst
  | error fault => exact .ofExcept_bind fun _ h => by cases h

theorem refusesFirst_insert (attrs : Pairs) :
    db.RefusesFirst (table.insert (db.recording Unit) attrs) (table.insert db attrs) := by
  refine .ofExcept_bind fun statement _ => NeverRefuses.refusesFirst ?_
  -- the row is read back from a table whose name was accepted already
  refine (NeverRefuses.execute statement).bind fun _ => (NeverRefuses.queryScalar _).bind fun id =>
    (table.neverRefuses_firstRecord (.selectById table.name id)).bind fun found => ?_
  cases found with
  | none => exact .ofExcept (.error rfl)
  | some record => exact .pure record

theorem refusesFirst_tally (conditions : Pairs) :
    db.RefusesFirst (table.tally (db.recording Unit) conditions) (table.tally db conditions) := by
  refine .ofExcept_bind fun statement _ => ((NeverRefuses.queryScalar statement).bind
    fun counted => ?_).refusesFirst
  split
  · exact .ofExcept (.toInteger counted)
  · exact .pure 0

theorem refusesFirst_pluck (column : Value) :
    db.RefusesFirst (table.pluck (db.recording Unit) column) (table.pluck db column) :=
  .ofExcept_bind fun statement _ => .ofExcept_bind fun column _ =>
    ((NeverRefuses.query statement).bind
      fun rows => .ofExcept (.mapM (Unrefused.columnOf column) rows)).refusesFirst

theorem neverRefuses_change (statement : Statement) (message : String) :
    db.NeverRefuses (table.change (db.recording Unit) statement message)
      (table.change db statement message) :=
  (NeverRefuses.execute statement).bind fun _ => (NeverRefuses.log _).bind fun _ => .pure _

theorem refusesFirst_destroy (conditions : Pairs) :
    db.RefusesFirst (table.destroy (db.recording Unit) conditions) (table.destroy db conditions) :=
  .ofExcept_bind fun statement _ => (table.neverRefuses_change statement _).refusesFirst

theorem refusesFirst_updateAll (conditions attrs : Pairs) :
    db.RefusesFirst (table.updateAll (db.recording Unit) conditions attrs)
      (table.updateAll db conditions attrs) := by
  unfold updateAll
  split
  · exact .pure 0
  · exact .ofExcept_bind fun statement _ => (table.neverRefuses_change statement _).refusesFirst

theorem neverRefuses_rebuildIndex (columns : List Identifier) :
    db.NeverRefuses (table.rebuildIndex (db.recording Unit) columns)
      (table.rebuildIndex db columns) :=
  (NeverRefuses.ofExcept (.creationOf table.name columns)).bind fun _ => .executeAll _

theorem neverRefuses_indexedColumns :
    db.NeverRefuses (table.indexedColumns (db.recording Unit)) (table.indexedColumns db) :=
  (NeverRefuses.query _).bind fun rows => .ofExcept (.mapM Unrefused.indexedColumn rows)

theorem refusesFirst_makeSearchable (columns : List Value) :
    db.RefusesFirst ((makeSearchable (db.recording Unit) columns).value table)
      ((makeSearchable db columns).value table) := by
  rw [value_makeSearchable, value_makeSearchable]
  refine .ofExcept_bind fun columns _ => NeverRefuses.refusesFirst ?_
  refine table.neverRefuses_indexedColumns.bind fun found => ?_
  split
  · exact (table.neverRefuses_rebuildIndex columns).transaction.bind fun _ =>
      (NeverRefuses.log _).bind fun _ => .pure _
  · exact .pure _

theorem refusesFirst_search (query : String) (argument : SearchArgument) :
    db.RefusesFirst (table.search (db.recording Unit) query argument)
      (table.search db query argument) := by
  unfold search searchWith
  cases table.searchColumns with
  | none => exact .ofExcept _
  | some columns =>
      refine .ofExcept_bind fun options _ => ?_
      split
      · exact .pure []
      · refine .ofExcept_bind fun limit _ => .ofExcept_bind fun statement _ => .log_bind _ ?_
        exact ((NeverRefuses.query statement).bind
          fun rows => .ofExcept (.mapM (Unrefused.wrapHit table) rows)).refusesFirst

end Table

namespace Record

open Database (NeverRefuses RefusesFirst)

variable (record : Record)

theorem refusesFirst_save :
    db.RefusesFirst (record.save (db.recording Unit)) (record.save db) := by
  refine .ofExcept_bind fun _ _ => ?_
  split
  · exact .pure ()
  · exact .ofExcept_bind fun statement _ => ((NeverRefuses.execute statement).bind
      fun _ => .log _).refusesFirst

theorem refusesFirst_deleteRow : db.RefusesFirst ((deleteRow (db.recording Unit)).value record)
    ((deleteRow db).value record) := by
  rw [value_deleteRow, value_deleteRow]
  exact .ofExcept_bind fun _ _ => .ofExcept_bind fun statement _ =>
    ((NeverRefuses.execute statement).bind fun _ =>
      (NeverRefuses.log _).bind fun _ => .pure _).refusesFirst

theorem refusesFirst_reloadRow : db.RefusesFirst ((reloadRow (db.recording Unit)).value record)
    ((reloadRow db).value record) := by
  rw [value_reloadRow, value_reloadRow]
  refine .ofExcept_bind fun _ _ => .ofExcept_bind fun statement _ =>
    ((NeverRefuses.queryRow statement).bind fun row => ?_).refusesFirst
  cases row with
  | none => exact .pure _
  | some row => exact .pure _

theorem refusesFirst_putItem (key v : Value) :
    db.RefusesFirst (InPlace.value (putItem key v) record)
      (InPlace.value (putItem key v) record) := by
  rw [value_putItem_eq, value_putItem_eq]
  exact .ofExcept_bind fun _ _ => .pure _

theorem refusesFirst_putAttribute (name : String) (v : Value) :
    db.RefusesFirst (InPlace.value (putAttribute name v) record)
      (InPlace.value (putAttribute name v) record) := by
  rw [value_putAttribute_eq, value_putAttribute_eq]
  exact .ofExcept_bind fun _ _ => .pure _

end Record

/-- A table and a record that a program has in hand. -/
structure Holding where
  table : Table
  record : Record

namespace Holding

def setTable (held : Holding) (table : Table) : Holding := { held with table := table }

def setRecord (held : Holding) (record : Record) : Holding := { held with record := record }

def asking (action : Holding → Action σ β) : InPlace Holding σ Unit :=
  .taking action fun held _ => held

def onTable (action : InPlace Table σ β) : InPlace Holding σ β := action.part table setTable

def onRecord (action : InPlace Record σ β) : InPlace Holding σ β := action.part record setRecord

variable {held : Holding} {Q : List Sending → Except Fault (β × Holding) → Prop}

theorem always_onTable {noted : InPlace Table (σ × List (Event Unit)) β}
    {plain : InPlace Table σ β} (h : db.Always (noted.value held.table) (plain.value held.table)
      fun sent outcome => Q sent ((fun found => (found.1, held.setTable found.2)) <$> outcome)) :
    db.Always ((onTable noted).value held) ((onTable plain).value held) Q := .part h

theorem always_onRecord {noted : InPlace Record (σ × List (Event Unit)) β}
    {plain : InPlace Record σ β} (h : db.Always (noted.value held.record) (plain.value held.record)
      fun sent outcome => Q sent ((fun found => (found.1, held.setRecord found.2)) <$> outcome)) :
    db.Always ((onRecord noted).value held) ((onRecord plain).value held) Q := .part h

end Holding

inductive Request where
  | define (name : Value) (schema : Option Pairs)
  | insert (attrs : Pairs)
  | get (id : Value)
  | list
  | filter (conditions : Pairs)
  | first (conditions : Pairs)
  | tally (conditions : Pairs)
  | exists? (conditions : Pairs)
  | pluck (column : Value)
  | destroy (conditions : Pairs)
  | updateAll (conditions attrs : Pairs)
  | searchable (columns : List Value)
  | search (query : String) (argument : SearchArgument)
  | save
  | delete
  | reload
  | setAttribute (name v : Value)
  | setItem (key v : Value)

namespace Request

open Holding (asking onTable onRecord)

/-- Performs an operation on what is in hand; what it makes is then in hand. -/
def perform (db : Database σ) : Request → InPlace Holding σ Unit
  | define name schema => .taking (fun _ => Table.define db name schema) Holding.setTable
  | insert attrs => .taking (·.table.insert db attrs) Holding.setRecord
  | get id => .taking (·.table.get db id) fun held found =>
    held.setRecord (found.getD held.record)
  | list => asking (·.table.list db)
  | filter conditions => asking (·.table.filter db conditions)
  | first conditions => .taking (·.table.first db conditions) fun held found =>
    held.setRecord (found.getD held.record)
  | tally conditions => asking (·.table.tally db conditions)
  | exists? conditions => asking (·.table.exists? db conditions)
  | pluck column => asking (·.table.pluck db column)
  | destroy conditions => asking (·.table.destroy db conditions)
  | updateAll conditions attrs => asking (·.table.updateAll db conditions attrs)
  | searchable columns => onTable (Table.makeSearchable db columns)
  | search query argument => asking (·.table.search db query argument)
  | save => asking (·.record.save db)
  | delete => onRecord (Record.deleteRow db)
  | reload => do
    let _ ← onRecord (Record.reloadRow db)
    pure ()
  | setAttribute name v => do
    let name ← Action.ofExcept (attributeName name)
    onRecord (Record.putAttribute name v)
  | setItem key v => onRecord (Record.putItem key v)

theorem value_reload (db : Database σ) (held : Holding) : (reload.perform db).value held =
    (onRecord (Record.reloadRow db)).value held >>= fun found => pure ((), found.2) := by
  rw [perform, InPlace.value_bind]
  rfl

theorem value_setAttribute (db : Database σ) (held : Holding) (name v : Value) :
    ((setAttribute name v).perform db).value held =
      Action.ofExcept (attributeName name) >>= fun name =>
        (onRecord (Record.putAttribute name v)).value held := by
  rw [perform, InPlace.value_bind, InPlace.value_ofExcept, bind_assoc]
  rfl

/-- An operation that fails leaves what is in hand as it was. -/
theorem framed_perform (db : Database σ) (request : Request) : (request.perform db).Framed := by
  cases request with
  | searchable columns => exact (Table.framed_makeSearchable db columns).part fun _ => rfl
  | delete => exact (Record.framed_deleteRow db).part fun _ => rfl
  | reload =>
      exact ((Record.framed_reloadRow db).part fun _ => rfl).bind_succeeds
        fun _ => InPlace.succeeds_pure ()
  | setAttribute name v =>
      exact (InPlace.keeps_ofExcept _).bind_framed fun name =>
        (Record.framed_putAttribute name v).part fun _ => rfl
  | setItem key v => exact (Record.framed_putItem key v).part fun _ => rfl
  | define | insert | get | list | filter | first | tally | exists? | pluck | destroy | updateAll
  | search | save => exact InPlace.framed_taking _ _

section

variable {held : Holding}

theorem refusesFirst_taking {action : Holding → Action (σ × List (Event Unit)) β}
    {action' : Holding → Action σ β} (h : db.RefusesFirst (action held) (action' held))
    (put : Holding → β → Holding) :
    db.RefusesFirst ((InPlace.taking action put).value held)
      ((InPlace.taking action' put).value held) :=
  Database.Always.taking (h.map _)

theorem refusesFirst_onTable {action : InPlace Table (σ × List (Event Unit)) β}
    {action' : InPlace Table σ β}
    (h : db.RefusesFirst (action.value held.table) (action'.value held.table)) :
    db.RefusesFirst ((onTable action).value held) ((onTable action').value held) :=
  Holding.always_onTable (h.map _)

theorem refusesFirst_onRecord {action : InPlace Record (σ × List (Event Unit)) β}
    {action' : InPlace Record σ β}
    (h : db.RefusesFirst (action.value held.record) (action'.value held.record)) :
    db.RefusesFirst ((onRecord action).value held) ((onRecord action').value held) :=
  Holding.always_onRecord (h.map _)

end

theorem refusesFirst_value (held : Holding) (request : Request) :
    db.RefusesFirst ((request.perform (db.recording Unit)).value held)
      ((request.perform db).value held) := by
  cases request with
  | define name schema => exact refusesFirst_taking (Table.refusesFirst_define name schema) _
  | insert attrs => exact refusesFirst_taking (held.table.refusesFirst_insert attrs) _
  | get id => exact refusesFirst_taking (held.table.refusesFirst_firstRecord _) _
  | list | filter => exact refusesFirst_taking (held.table.refusesFirst_records _) _
  | first conditions => exact refusesFirst_taking (held.table.refusesFirst_firstRecord _) _
  | tally conditions => exact refusesFirst_taking (held.table.refusesFirst_tally conditions) _
  | exists? conditions =>
      exact refusesFirst_taking ((held.table.refusesFirst_tally conditions).bind fun _ => .pure _) _
  | pluck column => exact refusesFirst_taking (held.table.refusesFirst_pluck column) _
  | destroy conditions => exact refusesFirst_taking (held.table.refusesFirst_destroy conditions) _
  | updateAll conditions attrs =>
      exact refusesFirst_taking (held.table.refusesFirst_updateAll conditions attrs) _
  | search query argument =>
      exact refusesFirst_taking (held.table.refusesFirst_search query argument) _
  | save => exact refusesFirst_taking held.record.refusesFirst_save _
  | searchable columns =>
      exact refusesFirst_onTable (held.table.refusesFirst_makeSearchable columns)
  | delete => exact refusesFirst_onRecord held.record.refusesFirst_deleteRow
  | reload =>
      rw [value_reload, value_reload]
      exact (refusesFirst_onRecord held.record.refusesFirst_reloadRow).bind
        fun found => .pure ((), found.2)
  | setAttribute name v =>
      rw [value_setAttribute, value_setAttribute]
      exact .ofExcept_bind fun name _ =>
        refusesFirst_onRecord (held.record.refusesFirst_putAttribute name v)
  | setItem key v => exact refusesFirst_onRecord (held.record.refusesFirst_putItem key v)

theorem refusesFirst_perform (held : Holding) (request : Request) :
    db.AlwaysOn (request.perform (db.recording Unit)) (request.perform db) held
      fun sent outcome held' => ∀ fault, outcome = .error fault →
        held' = held ∧ (OwnFaults sent → fault.isRefusal = true → sent = []) := by
  refine .on (framed_perform _ request) (framed_perform db request) ?_
  refine (request.refusesFirst_value held).imp fun sent result hfirst fault hf => ?_
  obtain ⟨hresult, hheld⟩ := InPlace.ending_error hf
  exact ⟨hheld, fun hown => hfirst hown fault hresult⟩

end Request

/-- From any state of the store an operation comes to an end; if it refuses, and the store fails
with faults of its own only, nothing was sent, the store is as it was, and so is what is in hand. -/
theorem refusal_before_sending (db : Database σ) (held : Holding) (request : Request) (s : σ) :
    ∃ sent outcome held' s', db.Sends ((request.perform (db.recording Unit)).runOn held)
        ((request.perform db).runOn held) s sent (.ok (outcome, held')) s' ∧
      (OwnFaults sent → ∀ fault, outcome = .error fault → fault.isRefusal = true →
        sent = [] ∧ s' = s ∧ held' = held) := by
  obtain ⟨sent, outcome, held', s', hs, hfirst⟩ :=
    (request.refusesFirst_perform held).exists_sends s
  refine ⟨sent, outcome, held', s', hs, fun hown fault hf hr => ?_⟩
  obtain ⟨hheld, hsent⟩ := hfirst fault hf
  obtain rfl := hsent hown hr
  exact ⟨rfl, hs.chain.eq_of_nil, hheld⟩

def notes : Table where
  name := ⟨"notes", by decide⟩
  schema := [(⟨"title", by decide⟩, .text "TEXT")]

/-- A selection whose second condition is no column. -/
def hostileFilter : Request := .filter [(.text "title", .text "seen"), (.text "1=1; --", .null)]

theorem hostileFilter_unsent : ∃ fault : Fault, fault.isRefusal = true ∧
    Playback.database.Sends
      ((hostileFilter.perform (Playback.database.recording Unit)).runOn ⟨notes, note "seen"⟩)
      ((hostileFilter.perform Playback.database).runOn ⟨notes, note "seen"⟩) {} []
      (.ok (.error fault, ⟨notes, note "seen"⟩)) {} := by
  obtain ⟨sent, outcome, held', s', hs, hrefused⟩ :=
    refusal_before_sending Playback.database ⟨notes, note "seen"⟩ hostileFilter {}
  obtain ⟨_, hplain⟩ := hs.plain []
  have hended : (((hostileFilter.perform Playback.database).runOn ⟨notes, note "seen"⟩).runFrom
      ⟨{}, []⟩).1 = .ok (.error (.invalidIdentifier (.text "1=1;") "column"),
        ⟨notes, note "seen"⟩) := rfl
  rw [hplain] at hended
  have hrefusal : outcome = .error (.invalidIdentifier (.text "1=1;") "column") :=
    (Prod.mk.inj (Except.ok.inj hended)).1
  have hown : OwnFaults sent := fun sending hm fault hf =>
    absurd hf (Playback.unrefused_of_chain hs.chain sending hm fault)
  obtain ⟨rfl, rfl, rfl⟩ := hrefused hown _ hrefusal rfl
  exact ⟨_, rfl, hrefusal ▸ hs⟩

end TableRecords
