import TableRecords.Fields
import TableRecords.Journal.Entry
import TableRecords.Sql.Statement

/-! # Stores and sessions

A store answers statements one at a time; whatever keeps the tables is behind it. A session is the
state of a store together with the log entries made so far, and an action is what runs in a session:
it ends with a value or a fault, and the session goes on from either.
-/

namespace TableRecords

/-- The answer to a statement: how many rows were changed, `-1` if that has no meaning, and the
rows found. -/
structure Reply where
  affected : Int := -1
  rows : List Fields := []
deriving Repr

structure Store (σ : Type) where
  send : σ → Statement → Except Fault Reply × σ
  inTransaction : σ → Bool
  close : σ → σ

/-- A store whose states are paired with states of something else, which it leaves alone. -/
def Store.beside {σ : Type} (store : Store σ) (τ : Type) : Store (σ × τ) where
  send s statement :=
    let (reply, state) := store.send s.1 statement
    (reply, (state, s.2))
  inTransaction s := store.inTransaction s.1
  close s := (store.close s.1, s.2)

/-- The state of a store and the log entries made so far, oldest first. -/
structure Session (σ : Type) where
  state : σ
  journal : List Entry := []

abbrev Action (σ α : Type) : Type := ExceptT Fault (StateM (Session σ)) α

namespace Action

variable {σ α : Type}

def runFrom (action : Action σ α) (session : Session σ) : Except Fault α × Session σ :=
  ExceptT.run action session

def attempt (action : Action σ α) : Action σ (Except Fault α) :=
  ExceptT.mk fun session =>
    let (outcome, session) := action.runFrom session
    (.ok outcome, session)

def ofExcept (outcome : Except Fault α) : Action σ α := ExceptT.mk fun session => (outcome, session)

def log (entry : Entry) : Action σ Unit :=
  ExceptT.mk fun session => (.ok (), { session with journal := session.journal ++ [entry] })

def state : Action σ σ := ExceptT.mk fun session => (.ok session.state, session)

def modifyState (f : σ → σ) : Action σ Unit :=
  ExceptT.mk fun session => (.ok (), { session with state := f session.state })

end Action

end TableRecords
