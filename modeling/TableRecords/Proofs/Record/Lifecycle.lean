import Mathlib
import TableRecords.Proofs.Fields
import TableRecords.Proofs.Outcome
import TableRecords.Proofs.Table.Changes

/-! # The life of a record

A record is assigned to, read, saved, deleted and reloaded in any order, and the store answers as it
likes. Each move goes one of a few ways. From these it follows what a record keeps all its life, and
that a record whose row was deleted never turns to the store again.
-/

namespace TableRecords

variable {σ : Type}

namespace Record

inductive Look where
  | member (name : String)
  | item (key : Value)
  | get (key default : Value)
  | contains (key : Value)
  | fields

inductive Answer where
  | done
  | member (found : Attribute)
  | value (v : Value)
  | present (found : Bool)
  | fields (fields : Fields)
  | reloaded (found : Bool)

def Look.of (record : Record) : Look → Except Fault Answer
  | member name => .member <$> record.getAttribute name
  | item key => .value <$> record.item key
  | get key default => .value <$> record.get key default
  | contains key => .present <$> record.contains key
  | fields => .ok (.fields record.fields)

theorem Look.ne_reloaded (l : Look) (record : Record) (found : Bool) :
    l.of record ≠ .ok (.reloaded found) := by
  intro h
  cases l with
  | fields => cases h
  | member _ | item _ | get _ _ | contains _ =>
      obtain ⟨_, -, h⟩ := Outcome.map_eq_ok.1 h
      cases h

def Look.showsDeletion : Look → Bool
  | member name => ["is_deleted", "_deleted", "__dict__"].contains name
  | _ => false

theorem ownAttribute_deleted {name : String} (h : (Look.member name).showsDeletion = false)
    (record : Record) (deleted : Bool) :
    ownAttribute? { record with deleted := deleted } name = record.ownAttribute? name := by
  simp only [Look.showsDeletion, List.contains_cons, List.contains_nil, Bool.or_false,
    Bool.or_eq_false_iff] at h
  obtain ⟨his, hinner, hdict⟩ := h
  simp [ownAttribute?, ownAttributes, properties, state, List.lookup_cons, his, hinner, hdict, id]

/-- What a look finds does not depend on whether the row was deleted, unless it shows just that. -/
theorem Look.of_deleted {l : Look} (h : l.showsDeletion = false) (record : Record)
    (deleted : Bool) : l.of { record with deleted := deleted } = l.of record := by
  cases l with
  | member name => simp only [of, getAttribute, ownAttribute_deleted h record deleted]
  | item key => rfl
  | get key default => rfl
  | contains key => rfl
  | fields => rfl

inductive Move where
  | setAttribute (name v : Value)
  | setItem (key v : Value)
  | look (look : Look)
  | save
  | delete
  | reload

namespace Move

/-- The name under which a move that needs the row is refused. -/
def action? : Move → Option String
  | save => some "save"
  | delete => some "delete"
  | reload => some "reload"
  | _ => none

def assigns : Move → Bool
  | setAttribute _ _ | setItem _ _ => true
  | _ => false

theorem action_of_assigns {move : Move} (h : move.assigns = true) : move.action? = none := by
  cases move <;> first | rfl | cases h

/-- Makes a move with a record, and answers. -/
def perform (db : Database σ) : Move → InPlace Record σ Answer
  | setAttribute name v => do
    let name ← Action.ofExcept (attributeName name)
    putAttribute name v
    pure .done
  | setItem key v => do
    putItem key v
    pure .done
  | look l => do
    let record ← InPlace.held
    Action.ofExcept (l.of record)
  | save => do
    let record ← InPlace.held
    InPlace.onStore (record.save db)
    pure .done
  | delete => do
    deleteRow db
    pure .done
  | reload => do
    let found ← reloadRow db
    pure (.reloaded found)

theorem framed_perform (db : Database σ) (move : Move) : (move.perform db).Framed := by
  cases move with
  | setAttribute name v =>
      exact (InPlace.keeps_ofExcept _).bind_framed fun name =>
        (framed_putAttribute name v).bind_succeeds fun _ => InPlace.succeeds_pure _
  | setItem key v => exact (framed_putItem key v).bind_succeeds fun _ => InPlace.succeeds_pure _
  | look l =>
      exact InPlace.keeps_held.bind_framed fun record => (InPlace.keeps_ofExcept _).framed
  | save =>
      exact InPlace.keeps_held.bind_framed fun record =>
        (InPlace.keeps_onStore _).framed.bind_succeeds fun _ => InPlace.succeeds_pure _
  | delete => exact (framed_deleteRow db).bind_succeeds fun _ => InPlace.succeeds_pure _
  | reload => exact (framed_reloadRow db).bind_succeeds fun _ => InPlace.succeeds_pure _

end Move

/-- The ways a move can go: what it sends, how it ends, and what becomes of the record. -/
inductive Takes (record : Record) : Move → List Sending → Except Fault Answer → Record → Prop
  | assigned {move key v} (hm : move.assigns = true) (hk : record.fields.has key = true)
      (hid : key.same primaryKey.toValue = false) :
      Takes record move [] (.ok .done) (record.setField key v)
  | unassigned {move fault} (hm : move.assigns = true) :
      Takes record move [] (.error fault) record
  | looked (l : Look) : Takes record (.look l) [] (l.of record) record
  | refused {move action fault} (hd : record.deleted = false) (hm : move.action? = some action) :
      Takes record move [] (.error fault) record
  | dead {move action} (hd : record.deleted = true) (hm : move.action? = some action) :
      Takes record move [] (.error (.recordDeleted action record.table record.id)) record
  | unsaved (hd : record.deleted = false) : Takes record .save [] (.ok .done) record
  | saved {sending reply} (hd : record.deleted = false) (ho : sending.outcome = .ok reply) :
      Takes record .save [sending] (.ok .done) record
  | deleted {sending reply} (hd : record.deleted = false)
      (hs : Statement.deleteById record.table record.id = .ok sending.statement)
      (ho : sending.outcome = .ok reply) :
      Takes record .delete [sending] (.ok .done) { record with deleted := true }
  | missing {sending reply} (hd : record.deleted = false) (ho : sending.outcome = .ok reply)
      (hr : reply.rows.head? = none) :
      Takes record .reload [sending] (.ok (.reloaded false)) record
  | refreshed {sending reply row} (hd : record.deleted = false) (ho : sending.outcome = .ok reply)
      (hr : reply.rows.head? = some row) :
      Takes record .reload [sending] (.ok (.reloaded true)) (record.refresh row)
  | failed {move action sending fault} (hd : record.deleted = false)
      (hm : move.action? = some action) (ho : sending.outcome = .error fault) :
      Takes record move [sending] (.error fault) record

theorem setItem_ok {record after : Record} {key v : Value} (h : record.setItem key v = .ok after) :
    record.fields.has key = true ∧ key.same primaryKey.toValue = false ∧
      after = record.setField key v := by
  rw [setItem_eq] at h
  split at h
  · cases h
  · rename_i hid
    obtain ⟨found, hfound, h⟩ := Outcome.bind_eq_ok.1 h
    obtain ⟨-, -, hfound⟩ := Outcome.bind_eq_ok.1 hfound
    cases hfound
    split at h
    · rename_i w hw
      cases h
      exact ⟨Fields.has_iff_get.2 (by rw [hw]; rfl), by simpa using hid, rfl⟩
    · cases h

theorem setAttribute_ok {record after : Record} {name : String} {v : Value}
    (h : record.setAttribute name v = .ok after) : record.setItem (.text name) v = .ok after := by
  rw [setAttribute_eq] at h
  split at h
  · cases h
  · exact h

theorem ensureAlive_ok {record : Record} {action : String} {u : Unit}
    (h : record.ensureAlive action = .ok u) : record.deleted = false := by
  unfold ensureAlive at h
  split at h
  · cases h
  · rename_i hd
    simpa using hd

theorem ensureAlive_error {record : Record} {action : String} {fault : Fault}
    (h : record.ensureAlive action = .error fault) :
    record.deleted = true ∧ fault = .recordDeleted action record.table record.id := by
  unfold ensureAlive at h
  split at h
  · rename_i hd
    cases h
    exact ⟨hd, rfl⟩
  · cases h

section

variable (db : Database σ) (record : Record)

def Goes (move : Move) (sent : List Sending) (result : Except Fault (Answer × Record)) : Prop :=
  record.Takes move sent (InPlace.ending record result).1 (InPlace.ending record result).2

theorem goes_assignment {move : Move} {outcome : Except Fault Record} (hm : move.assigns = true)
    (h : ∀ after, outcome = .ok after → ∃ key v, record.setItem key v = .ok after) :
    record.Goes move [] ((fun after => (.done, after)) <$> outcome) := by
  cases outcome with
  | error fault => exact .unassigned hm
  | ok after =>
      obtain ⟨key, v, hset⟩ := h after rfl
      obtain ⟨hk, hid, rfl⟩ := setItem_ok hset
      exact .assigned hm hk hid

theorem always_alive {β : Type} {next : Unit → Action (σ × List (Event Unit)) β}
    {next' : Unit → Action σ β} {Q : List Sending → Except Fault β → Prop} {action : String}
    (dead : record.deleted = true → Q [] (.error (.recordDeleted action record.table record.id)))
    (alive : record.deleted = false → db.Always (next ()) (next' ()) Q) :
    db.Always (Action.ofExcept (record.ensureAlive action) >>= next)
      (Action.ofExcept (record.ensureAlive action) >>= next') Q := by
  refine .ofExcept_bind (fun fault hf => ?_) fun _ ha => alive (ensureAlive_ok ha)
  obtain ⟨hd, rfl⟩ := ensureAlive_error hf
  exact dead hd

theorem always_save : db.Always (record.save (db.recording Unit)) (record.save db)
    fun sent outcome => record.Goes .save sent ((fun _ => (.done, record)) <$> outcome) := by
  refine record.always_alive db (fun hd => .dead hd rfl) fun hd => ?_
  split
  · exact .ofExcept (.unsaved hd)
  · refine .ofExcept_bind (fun fault _ => .refused hd rfl) fun statement _ => ?_
    refine (db.asks_execute statement).bind (fun sending fault _ ho => .failed hd rfl ho) ?_
    intro sending reply _ ho
    exact .log _ (.saved hd ho)

theorem always_delete : db.Always ((deleteRow (db.recording Unit)).value record)
    ((deleteRow db).value record)
    fun sent outcome => record.Goes .delete sent ((fun found => (.done, found.2)) <$> outcome) := by
  rw [value_deleteRow, value_deleteRow]
  refine record.always_alive db (fun hd => .dead hd rfl) fun hd => ?_
  refine .ofExcept_bind (fun fault _ => .refused hd rfl) fun statement hs => ?_
  refine (db.asks_execute statement).bind (fun sending fault _ ho => .failed hd rfl ho) ?_
  intro sending reply hstatement ho
  exact .log_bind _ (.ofExcept (.deleted hd (hstatement ▸ hs) ho))

theorem always_reload : db.Always ((reloadRow (db.recording Unit)).value record)
    ((reloadRow db).value record) fun sent outcome => record.Goes .reload sent
      ((fun found => (.reloaded found.1, found.2)) <$> outcome) := by
  rw [value_reloadRow, value_reloadRow]
  refine record.always_alive db (fun hd => .dead hd rfl) fun hd => ?_
  refine .ofExcept_bind (fun fault _ => .refused hd rfl) fun statement _ => ?_
  refine (db.asks_queryRow statement).bind (fun sending fault _ ho => .failed hd rfl ho) ?_
  intro sending reply _ ho
  cases hr : reply.rows.head? with
  | none => exact .ofExcept (.missing hd ho hr)
  | some row => exact .ofExcept (.refreshed hd ho hr)

/-- Every move goes one of its ways. -/
theorem Move.takes (move : Move) : db.AlwaysOn (move.perform (db.recording Unit))
    (move.perform db) record (record.Takes move) := by
  refine .on (move.framed_perform _) (move.framed_perform db) ?_
  change db.Always _ _ (record.Goes move)
  cases move with
  | setAttribute name v =>
      simp only [perform, InPlace.value_bind, InPlace.value_ofExcept, value_putAttribute_eq,
        InPlace.value_pure, bind_assoc, pure_bind]
      refine .ofExcept_bind (fun fault _ => .unassigned rfl) fun text _ => .map (.ofExcept ?_)
      exact record.goes_assignment rfl fun after hset => ⟨_, v, setAttribute_ok hset⟩
  | setItem key v =>
      simp only [perform, InPlace.value_bind, value_putItem_eq, InPlace.value_pure, bind_assoc,
        pure_bind]
      exact .map (.ofExcept (record.goes_assignment rfl fun after hset => ⟨key, v, hset⟩))
  | look l =>
      simp only [perform, InPlace.value_bind, InPlace.value_held, InPlace.value_ofExcept, pure_bind]
      refine .map (.ofExcept ?_)
      have hlooked : record.Takes (.look l) [] (l.of record) record := .looked l
      unfold Goes
      cases h : l.of record <;> rw [h] at hlooked <;> exact hlooked
  | save =>
      simp only [perform, InPlace.value_bind, InPlace.value_held, InPlace.value_onStore,
        InPlace.value_pure, bind_assoc, pure_bind]
      exact .map (record.always_save db)
  | delete =>
      rw [perform, perform, InPlace.value_bind, InPlace.value_bind]
      exact .map (record.always_delete db)
  | reload =>
      rw [perform, perform, InPlace.value_bind, InPlace.value_bind]
      exact .map (record.always_reload db)

end

/-! ## What a record keeps -/

/-- Whether two records have the same table, primary key and annotations, and fields of the same
names in the same order. -/
structure Resembles (record other : Record) : Prop where
  table : record.table = other.table
  id : record.id = other.id
  keys : record.fields.keys = other.fields.keys
  annotations : record.annotations = other.annotations

theorem Resembles.refl (record : Record) : record.Resembles record := ⟨rfl, rfl, rfl, rfl⟩

theorem Resembles.trans {a b c : Record} (h : a.Resembles b) (h' : b.Resembles c) :
    a.Resembles c :=
  ⟨h.table.trans h'.table, h.id.trans h'.id, h.keys.trans h'.keys,
    h.annotations.trans h'.annotations⟩

/-- Whether a row is the one that the record is a copy of: it has the record's primary key and the
record's columns. -/
structure IsRow (record : Record) (row : Fields) : Prop where
  id : row.get? primaryKey.toValue = some record.id
  known : ∀ key ∈ row.keys, record.fields.has key = true
  complete : ∀ key ∈ record.fields.keys, row.has key = true

variable {record : Record} {row : Fields}

theorem resembles_setField {key : Value} (hk : record.fields.has key = true)
    (hid : key.same primaryKey.toValue = false) (v : Value) :
    (record.setField key v).Resembles record where
  table := rfl
  id := by
    have hget : (record.fields.set key v).get? primaryKey.toValue =
        record.fields.get? primaryKey.toValue := by
      rw [Fields.get_set, hid]
      rfl
    exact congrArg (·.getD .null) hget
  keys := Fields.keys_set hk
  annotations := rfl

theorem resembles_refresh (h : record.IsRow row) : (record.refresh row).Resembles record where
  table := rfl
  id := by
    have hget : (record.fields.merge row).get? primaryKey.toValue = some record.id := by
      rw [Fields.get_merge, h.id]
      rfl
    exact congrArg (·.getD .null) hget
  keys := Fields.keys_merge h.known
  annotations := rfl

/-- A record refreshed with its row has the fields of the row. -/
theorem get_refresh (h : record.IsRow row) (key : Value) :
    (record.refresh row).fields.get? key = row.get? key := by
  change (record.fields.merge row).get? key = _
  rw [Fields.get_merge]
  cases hrow : row.get? key with
  | some v => rfl
  | none =>
      -- a field that the row lacks is none of the record's, as the row has all of these
      refine Fields.get_eq_none fun hhas => ?_
      obtain ⟨k, hk, hsame⟩ := Fields.has_iff.1 hhas
      have hrowkey := Fields.has_of_same (h.complete k hk) hsame
      rw [Fields.has_iff_get, hrow] at hrowkey
      cases hrowkey

/-- A move that was made: the record before it, what was sent, how it ended, and the record after
it. -/
structure Step where
  before : Record
  move : Move
  sent : List Sending
  outcome : Except Fault Answer
  after : Record

/-- Whether a reload that was answered with a row was answered with the record's own. -/
def Step.Faithful (step : Step) : Prop :=
  step.move = .reload → ∀ sending ∈ step.sent, ∀ reply row, sending.outcome = .ok reply →
    reply.rows.head? = some row → step.before.IsRow row

structure Step.Lawful (step : Step) : Prop where
  kept : step.Faithful → step.after.Resembles step.before
  failed : ∀ fault, step.outcome = .error fault → step.after = step.before
  stays : step.before.deleted = true → step.after.deleted = true
  /-- Only a deletion that the store carried out marks a record as deleted. -/
  deletion : step.before.deleted = false → step.after.deleted = true →
    step.move = .delete ∧ ∃ sending reply, step.sent = [sending] ∧
      Statement.deleteById step.before.table step.before.id = .ok sending.statement ∧
      sending.outcome = .ok reply
  deletes : step.move = .delete → ∀ answer, step.outcome = .ok answer → step.after.deleted = true
  dead : step.before.deleted = true → step.sent = [] ∧
    ∀ action, step.move.action? = some action →
      step.outcome = .error (.recordDeleted action step.before.table step.before.id)
  looked : ∀ l, step.move = .look l →
    step.sent = [] ∧ step.outcome = l.of step.before ∧ step.after = step.before
  refreshed : step.outcome = .ok (.reloaded true) → step.Faithful →
    ∃ sending reply row, step.sent = [sending] ∧ sending.outcome = .ok reply ∧
      reply.rows.head? = some row ∧ ∀ key, step.after.fields.get? key = row.get? key
  missing : step.outcome = .ok (.reloaded false) → step.after = step.before

section

variable {step : Step}

/-- Whether a step goes one of the ways of its move. -/
def Step.IsTaken (step : Step) : Prop :=
  step.before.Takes step.move step.sent step.outcome step.after

namespace Step.IsTaken

theorem kept (h : step.IsTaken) (hf : step.Faithful) : step.after.Resembles step.before := by
  obtain ⟨before, move, sent, outcome, after⟩ := step
  change before.Takes move sent outcome after at h
  -- fields change by an assignment and by a refresh; all other ways leave them alone
  cases h with
  | assigned _ hk hid => exact resembles_setField hk hid _
  | deleted _ _ _ => exact ⟨rfl, rfl, rfl, rfl⟩
  | refreshed _ ho hr => exact resembles_refresh (hf rfl _ List.mem_cons_self _ _ ho hr)
  | unassigned | looked | refused | dead | unsaved | saved | missing | failed => exact .refl before

theorem failed (h : step.IsTaken) {fault : Fault} (hf : step.outcome = .error fault) :
    step.after = step.before := by
  obtain ⟨before, move, sent, outcome, after⟩ := step
  change before.Takes move sent outcome after at h
  cases h with
  | assigned | deleted | refreshed => cases hf
  | unassigned | looked | refused | dead | unsaved | saved | missing | failed => rfl

theorem mark (h : step.IsTaken) :
    step.after.deleted = step.before.deleted ∨
      step.before.deleted = false ∧ step.after.deleted = true ∧ step.move = .delete ∧
        ∃ sending reply, step.sent = [sending] ∧
          Statement.deleteById step.before.table step.before.id = .ok sending.statement ∧
          sending.outcome = .ok reply := by
  obtain ⟨before, move, sent, outcome, after⟩ := step
  change before.Takes move sent outcome after at h
  cases h with
  | deleted hd hs ho => exact Or.inr ⟨hd, rfl, rfl, _, _, rfl, hs, ho⟩
  | assigned | unassigned | looked | refused | dead | unsaved | saved | missing | refreshed
  | failed => exact Or.inl rfl

theorem deletes (h : step.IsTaken) (hm : step.move = .delete) {answer : Answer}
    (ho : step.outcome = .ok answer) : step.after.deleted = true := by
  obtain ⟨before, move, sent, outcome, after⟩ := step
  change before.Takes move sent outcome after at h
  cases hm
  cases h with
  | deleted _ _ _ => rfl
  | assigned hm _ _ => cases hm
  | unassigned | refused | dead | failed => cases ho

theorem sent_of_dead (h : step.IsTaken) (hd : step.before.deleted = true) : step.sent = [] ∧
    ∀ action, step.move.action? = some action →
      step.outcome = .error (.recordDeleted action step.before.table step.before.id) := by
  obtain ⟨before, move, sent, outcome, after⟩ := step
  change before.Takes move sent outcome after at h
  cases h with
  | assigned hm _ _ | unassigned hm =>
      refine ⟨rfl, fun action ha => ?_⟩
      rw [Move.action_of_assigns hm] at ha
      cases ha
  | looked l => exact ⟨rfl, fun action ha => by cases ha⟩
  | dead _ hm =>
      refine ⟨rfl, fun action ha => ?_⟩
      rw [hm] at ha
      cases ha
      rfl
  | refused h _ | unsaved h | saved h _ | deleted h _ _ | missing h _ _ | refreshed h _ _
  | failed h _ _ =>
      rw [hd] at h
      cases h

theorem of_look (h : step.IsTaken) {l : Look} (hm : step.move = .look l) :
    step.sent = [] ∧ step.outcome = l.of step.before ∧ step.after = step.before := by
  obtain ⟨before, move, sent, outcome, after⟩ := step
  change before.Takes move sent outcome after at h
  cases hm
  cases h with
  | looked l => exact ⟨rfl, rfl, rfl⟩
  | assigned hm _ _ | unassigned hm => cases hm
  | refused _ hm | dead _ hm | failed _ hm _ => cases hm

theorem of_reload (h : step.IsTaken) {found : Bool} (ho : step.outcome = .ok (.reloaded found)) :
    step.move = .reload ∧ ∃ sending reply, step.sent = [sending] ∧ sending.outcome = .ok reply ∧
      match found with
      | true => ∃ row, reply.rows.head? = some row ∧ step.after = step.before.refresh row
      | false => step.after = step.before := by
  obtain ⟨before, move, sent, outcome, after⟩ := step
  change before.Takes move sent outcome after at h
  cases h with
  | missing _ hanswer _ =>
      cases ho
      exact ⟨rfl, _, _, rfl, hanswer, rfl⟩
  | refreshed _ hanswer hr =>
      cases ho
      exact ⟨rfl, _, _, rfl, hanswer, _, hr, rfl⟩
  | looked l => exact absurd ho (l.ne_reloaded _ found)
  | assigned | unassigned | refused | dead | unsaved | saved | deleted | failed => cases ho

theorem lawful (h : step.IsTaken) : step.Lawful where
  kept := h.kept
  failed _ := h.failed
  stays hd := by
    rcases h.mark with hm | ⟨-, hm, -⟩
    · rw [hm, hd]
    · exact hm
  deletion hd ha := by
    rcases h.mark with hm | ⟨-, -, hm⟩
    · rw [hm, hd] at ha
      cases ha
    · exact hm
  deletes hm _ ho := h.deletes hm ho
  dead := h.sent_of_dead
  looked _ := h.of_look
  refreshed ho hf := by
    obtain ⟨hm, sending, reply, hsent, hanswer, row, hrow, hafter⟩ := h.of_reload ho
    refine ⟨sending, reply, row, hsent, hanswer, hrow, ?_⟩
    rw [hafter]
    exact get_refresh (hf hm sending (by simp [hsent]) reply row hanswer hrow)
  missing ho := by
    obtain ⟨-, _, _, -, -, hafter⟩ := h.of_reload ho
    exact hafter

end Step.IsTaken

end

/-! ## Lives -/

/-- The steps of a record from a state of the store, and the record and the state at their end. -/
inductive Life (db : Database σ) : Record → σ → List Step → Record → σ → Prop
  | nil {record s} : Life db record s [] record s
  | cons {step s s₁ rest final s'}
      (h : db.Sends ((step.move.perform (db.recording Unit)).runOn step.before)
        ((step.move.perform db).runOn step.before) s step.sent (.ok (step.outcome, step.after)) s₁)
      (hl : Life db step.after s₁ rest final s') : Life db step.before s (step :: rest) final s'

namespace Life

variable {db : Database σ} {record final : Record} {s s' : σ} {steps : List Step}

theorem exists_of_moves (db : Database σ) (record : Record) (s : σ) (moves : List Move) :
    ∃ steps final s', Life db record s steps final s' ∧ steps.map (·.move) = moves := by
  induction moves generalizing record s with
  | nil => exact ⟨[], record, s, .nil, rfl⟩
  | cons move moves ih =>
      -- the state and the record that the first move leaves are where the others start
      obtain ⟨sent, outcome, after, s₁, hs, -⟩ := (move.takes db record).exists_sends s
      let step : Step := ⟨record, move, sent, outcome, after⟩
      obtain ⟨steps, final, s', hl, hm⟩ := ih after s₁
      have hlife : Life db step.before s (step :: steps) final s' := .cons hs hl
      exact ⟨step :: steps, final, s', hlife, by simp [hm, step]⟩

theorem lawful (h : Life db record s steps final s') : ∀ step ∈ steps, step.Lawful := by
  induction h with
  | nil => simp
  | @cons step _ _ _ _ _ hs _ ih =>
      have htaken : step.IsTaken := (step.move.takes db step.before).of_sends hs
      exact List.forall_mem_cons.2 ⟨htaken.lawful, ih⟩

/-- As long as every reload is answered with the record's own row, the record keeps what makes it a
copy of that row. -/
theorem resembles (h : Life db record s steps final s') (hf : ∀ step ∈ steps, step.Faithful) :
    (∀ step ∈ steps, step.after.Resembles record) ∧ final.Resembles record := by
  induction h with
  | nil => exact ⟨by simp, .refl _⟩
  | @cons step s s₁ rest final s' hs _ ih =>
      have htaken : step.IsTaken := (step.move.takes db step.before).of_sends hs
      have hstep := htaken.kept (hf step (by simp))
      obtain ⟨hrest, hfinal⟩ := ih fun later hm => hf later (List.mem_cons_of_mem _ hm)
      refine ⟨fun later hm => ?_, hfinal.trans hstep⟩
      rcases List.mem_cons.1 hm with rfl | hm
      · exact hstep
      · exact (hrest later hm).trans hstep

/-- Once deleted, a record stays so. -/
theorem dead (h : Life db record s steps final s') (hd : record.deleted = true) :
    ∀ step ∈ steps, step.before.deleted = true := by
  induction h with
  | nil => simp
  | @cons step s s₁ rest final s' hs _ ih =>
      have htaken : step.IsTaken := (step.move.takes db step.before).of_sends hs
      have hstep := htaken.lawful.stays hd
      intro later hm
      rcases List.mem_cons.1 hm with rfl | hm
      · exact hd
      · exact ih hstep later hm

theorem first {step : Step} {rest : List Step}
    (h : Life db record s (step :: rest) final s') : ∃ s₁,
      db.Sends ((step.move.perform (db.recording Unit)).runOn record)
        ((step.move.perform db).runOn record) s step.sent (.ok (step.outcome, step.after)) s₁ := by
  cases h with
  | cons hs _ => exact ⟨_, hs⟩

theorem rest_of_step {early late : List Step} {step : Step}
    (h : Life db record s (early ++ step :: late) final s') :
    ∃ s₁, Life db step.after s₁ late final s' := by
  induction early generalizing record s with
  | nil =>
      cases h with
      | cons _ hl => exact ⟨_, hl⟩
  | cons first early ih =>
      cases h with
      | cons _ hl => exact ih hl

end Life

/-- What is so of the steps of a record from its beginning on. -/
structure LawfulRun (record : Record) (steps : List Step) : Prop where
  each : ∀ step ∈ steps, step.Lawful
  kept : (∀ step ∈ steps, step.Faithful) → ∀ step ∈ steps, step.after.Resembles record
  ended : ∀ early step late, steps = early ++ step :: late → step.move = .delete →
    ∀ answer, step.outcome = .ok answer → ∀ later ∈ late, later.before.deleted = true ∧
      later.sent = [] ∧
      (∀ action, later.move.action? = some action →
        later.outcome = .error (.recordDeleted action later.before.table later.before.id)) ∧
      ∀ l, later.move = .look l → l.showsDeletion = false →
        later.outcome = l.of { later.before with deleted := false }

theorem Life.lawfulRun {db : Database σ} {record final : Record} {s s' : σ} {steps : List Step}
    (h : Life db record s steps final s') : record.LawfulRun steps where
  each := h.lawful
  kept hf := (h.resembles hf).1
  ended := by
    rintro early step late rfl hm answer ho later hlater
    obtain ⟨s₁, hl⟩ := h.rest_of_step
    have hdeleted := (h.lawful step (by simp)).deletes hm answer ho
    have hbefore := hl.dead hdeleted later hlater
    have hlawful := hl.lawful later hlater
    obtain ⟨hsent, hrefused⟩ := hlawful.dead hbefore
    refine ⟨hbefore, hsent, hrefused, fun l hlook hshows => ?_⟩
    exact (hlawful.looked l hlook).2.1.trans (Look.of_deleted hshows later.before false).symm

/-- Any moves can be made with any record, from any state of any store, and in whichever way the
store answers them they keep the law of records. -/
theorem lifecycle (db : Database σ) (record : Record) (s : σ) (moves : List Move) :
    (∃ steps final s', Life db record s steps final s' ∧ steps.map (·.move) = moves) ∧
      ∀ steps final s', Life db record s steps final s' → steps.map (·.move) = moves →
        record.LawfulRun steps :=
  ⟨Life.exists_of_moves db record s moves, fun _ _ _ h _ => h.lawfulRun⟩

end Record

def noteFields (title : String) : Fields :=
  .ofPairs [(.text "id", .int 1), (.text "title", .text title)]

def note (title : String) : Record where
  table := .text "notes"
  fields := noteFields title
  keyed := rfl
  annotations := some ⟨.finite true .zero, some "<b>seen</b>", [("title", "<b>seen</b>")]⟩

open Record (Life Step lifecycle) in
theorem note_deleted_not_saved : ∃ deletion saving final s',
    Life Playback.database (note "seen") {} [deletion, saving] final s' ∧
      deletion.move = .delete ∧ saving.move = .save ∧ saving.sent = [] ∧ ∃ table id,
        saving.outcome = .error (.recordDeleted "save" table id) := by
  obtain ⟨⟨steps, final, s', hlife, hmoves⟩, hlawful⟩ :=
    lifecycle Playback.database (note "seen") {} [.delete, .save]
  have hrun := hlawful steps final s' hlife hmoves
  obtain ⟨deletion, rest, rfl, hdelete, hrest⟩ := List.map_eq_cons_iff.1 hmoves
  obtain ⟨saving, rfl, hsave⟩ := List.map_eq_singleton_iff.1 hrest
  obtain ⟨_, hsends⟩ := hlife.first
  obtain ⟨_, hplain⟩ := hsends.plain []
  have hdeleted : (((Record.Move.delete.perform Playback.database).runOn (note "seen")).runFrom
      ⟨{}, []⟩).1 = .ok (.ok .done, { note "seen" with deleted := true }) := rfl
  rw [hdelete] at hplain
  rw [hplain] at hdeleted
  have hdone : deletion.outcome = .ok .done := (Prod.mk.inj (Except.ok.inj hdeleted)).1
  obtain ⟨-, hsent, hrefused, -⟩ :=
    hrun.ended [] deletion [saving] rfl hdelete _ hdone saving List.mem_cons_self
  exact ⟨deletion, saving, final, s', hlife, hdelete, hsave, hsent, _, _,
    hrefused "save" (by rw [hsave]; rfl)⟩

end TableRecords
