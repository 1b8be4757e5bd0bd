import Mathlib
import TableRecords.Proofs.Store.Running

/-! # Recording runs

A program sends statements and opens transactions, one inside another to any depth, and goes on from
every answer as it likes. A recorded run notes what is sent to the store, by whom, and where each
transaction begins and ends; forgetting the record leaves the run as it is.
-/

namespace TableRecords

/-- A statement that was sent, its answer, and whether a transaction was open before and after. -/
structure Sending where
  statement : Statement
  before : Bool
  outcome : Except Fault Reply
  after : Bool

/-- What is noted of a run whose transactions end with values of type `α`. -/
inductive Event (α : Type) where
  | asked
  | sent (sending : Sending)
  | entered (isOpen : Bool)
  | started
  | ended (outcome : Except Fault α)
  | left (outcome : Except Fault α) (isOpen : Bool)

/-- What a program does with a database. -/
inductive Program (α : Type) where
  | done (outcome : Except Fault α)
  | ask (next : Bool → Program α)
  | send (statement : Statement) (next : Except Fault Reply → Program α)
  | transact (body : Program α) (next : Except Fault α → Program α)

def Program.action {σ α : Type} (db : Database σ) : Program α → Action σ α
  | done outcome => Action.ofExcept outcome
  | ask next => do
    let isOpen ← db.inTransaction
    (next isOpen).action db
  | send statement next => do
    let outcome ← (db.run statement).attempt
    (next outcome).action db
  | transact body next => do
    let outcome ← (db.transaction (body.action db)).attempt
    (next outcome).action db

def Store.sending {σ : Type} (store : Store σ) (state : σ) (statement : Statement) : Sending where
  statement := statement
  before := store.inTransaction state
  outcome := (store.send state statement).1
  after := store.inTransaction (store.send state statement).2

def Store.recording {σ : Type} (store : Store σ) (α : Type) : Store (σ × List (Event α)) where
  send s statement :=
    ((store.send s.1 statement).1,
      ((store.send s.1 statement).2, s.2 ++ [.sent (store.sending s.1 statement)]))
  inTransaction s := store.inTransaction s.1
  close s := (store.close s.1, s.2)

namespace Database

variable {σ α : Type}

def recording (db : Database σ) (α : Type) : Database (σ × List (Event α)) where
  store := db.store.recording α
  path := db.path
  settings := db.settings

/-- Notes an event, given whether a transaction is open. -/
def mark (db : Database σ) (event : Bool → Event α) : Action (σ × List (Event α)) Unit :=
  Action.modifyState fun s => (s.1, s.2 ++ [event (db.store.inTransaction s.1)])

def marked (db : Database σ) (body : Action (σ × List (Event α)) α) :
    Action (σ × List (Event α)) α := do
  db.mark fun _ => .started
  let outcome ← body.attempt
  db.mark fun _ => .ended outcome
  Action.ofExcept outcome

end Database

def Program.recorded {σ α : Type} (db : Database σ) :
    Program α → Action (σ × List (Event α)) α
  | done outcome => Action.ofExcept outcome
  | ask next => do
    let isOpen ← (db.recording α).inTransaction
    (next isOpen).recorded db
  | send statement next => do
    db.mark fun _ => .asked
    let outcome ← ((db.recording α).run statement).attempt
    (next outcome).recorded db
  | transact body next => do
    db.mark .entered
    let outcome ← ((db.recording α).transaction (db.marked (body.recorded db))).attempt
    db.mark (.left outcome)
    (next outcome).recorded db

def Session.forget {σ τ : Type} (session : Session (σ × τ)) : Session σ :=
  ⟨session.state.1, session.journal⟩

/-- An action that does the same as another, but for what it notes. -/
def Action.Refines {σ τ β : Type} (noted : Action (σ × τ) β) (plain : Action σ β) : Prop :=
  ∀ session, plain.runFrom session.forget =
    ((noted.runFrom session).1, (noted.runFrom session).2.forget)

namespace Action.Refines

variable {σ τ β γ : Type}

theorem pure (b : β) : Refines (pure b : Action (σ × τ) β) (pure b) := fun _ => rfl

theorem throw (fault : Fault) :
    Refines (throw fault : Action (σ × τ) β) (throw fault) := fun _ => rfl

theorem ofExcept (outcome : Except Fault β) :
    Refines (Action.ofExcept outcome : Action (σ × τ) β) (Action.ofExcept outcome) := fun _ => rfl

theorem log (entry : Entry) : Refines (Action.log entry : Action (σ × τ) Unit) (Action.log entry) :=
  fun _ => rfl

theorem bind {noted : Action (σ × τ) β} {plain : Action σ β} {next : β → Action (σ × τ) γ}
    {next' : β → Action σ γ} (h : Refines noted plain) (hn : ∀ b, Refines (next b) (next' b)) :
    Refines (noted >>= next) (plain >>= next') := by
  intro session
  rw [runFrom_bind, runFrom_bind, h session]
  cases (noted.runFrom session).1 with
  | ok b => exact hn b _
  | error fault => rfl

theorem attempt {noted : Action (σ × τ) β} {plain : Action σ β} (h : Refines noted plain) :
    Refines noted.attempt plain.attempt := by
  intro session
  rw [runFrom_attempt, runFrom_attempt, h session]

end Action.Refines

namespace Database

variable {σ α β : Type} (db : Database σ)

theorem refines_run (statement : Statement) :
    Action.Refines ((db.recording α).run statement) (db.run statement) := fun _ => rfl

theorem refines_inTransaction : Action.Refines (db.recording α).inTransaction db.inTransaction :=
  fun _ => rfl

theorem refines_rollback : Action.Refines (db.recording α).rollback db.rollback := by
  refine (db.refines_inTransaction).bind fun isOpen => ?_
  split
  · exact (db.refines_run _).bind fun _ => .pure _
  · exact .pure _

theorem refines_abandon (fault : Fault) :
    Action.Refines ((db.recording α).abandon fault : Action _ β) (db.abandon fault) := by
  refine db.refines_rollback.bind fun _ => ?_
  split
  · exact (Action.Refines.log _).bind fun _ => .throw _
  · exact .throw _

theorem refines_commit : Action.Refines (db.recording α).commit db.commit := by
  refine (db.refines_run _).attempt.bind fun outcome => ?_
  cases outcome with
  | ok reply => exact .pure _
  | error fault =>
      by_cases hs : fault.isStoreError = true
      · simp only [hs, if_true]
        exact db.refines_rollback.bind fun _ => .throw _
      · simp only [hs, Bool.false_eq_true, if_false]
        exact .throw _

theorem refines_transaction {noted : Action (σ × List (Event α)) β} {plain : Action σ β}
    (h : Action.Refines noted plain) :
    Action.Refines ((db.recording α).transaction noted) (db.transaction plain) := by
  refine db.refines_inTransaction.bind fun isOpen => ?_
  split
  · exact h
  · refine (db.refines_run _).bind fun _ => h.attempt.bind fun outcome => ?_
    cases outcome with
    | ok b => exact db.refines_commit.bind fun _ => .pure _
    | error fault => exact db.refines_abandon fault

theorem refines_mark {event : Bool → Event α} {noted : Action (σ × List (Event α)) β}
    {plain : Action σ β} (h : Action.Refines noted plain) :
    Action.Refines (do db.mark event; noted) plain :=
  fun session => h { session with
    state := (session.state.1,
      session.state.2 ++ [event (db.store.inTransaction session.state.1)]) }

theorem refines_marked {body : Action (σ × List (Event α)) α} {plain : Action σ α}
    (h : Action.Refines body plain) : Action.Refines (db.marked body) plain := by
  refine db.refines_mark fun session => ?_
  rw [Action.runFrom_bind_ok (Action.runFrom_attempt body session)]
  exact h session

end Database

/-- A recorded run is the run itself, but for what is noted. -/
theorem Program.refines_recorded {σ α : Type} (db : Database σ) (program : Program α) :
    (program.recorded db).Refines (program.action db) := by
  induction program with
  | done outcome => exact .ofExcept outcome
  | ask next ih => exact db.refines_inTransaction.bind ih
  | send statement next ih => exact db.refines_mark ((db.refines_run statement).attempt.bind ih)
  | transact body next ihb ih =>
      refine db.refines_mark ((db.refines_transaction (db.refines_marked ihb)).attempt.bind ?_)
      exact fun outcome => db.refines_mark (ih outcome)

end TableRecords
