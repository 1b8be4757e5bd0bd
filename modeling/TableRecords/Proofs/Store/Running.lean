import Mathlib
import TableRecords.Store.Database

/-! # Running actions

What an action comes to and what it leaves behind when it is run from a session, in terms of its
parts.
-/

namespace TableRecords

namespace Action

variable {σ α β : Type} {action : Action σ α} {next : α → Action σ β} {session after : Session σ}

@[simp] theorem runFrom_pure (a : α) : runFrom (pure a) session = (.ok a, session) := rfl

@[simp] theorem runFrom_throw (fault : Fault) :
    runFrom (throw fault : Action σ α) session = (.error fault, session) := rfl

@[simp] theorem runFrom_ofExcept (outcome : Except Fault α) :
    runFrom (ofExcept outcome) session = (outcome, session) := rfl

@[simp] theorem runFrom_modifyState (f : σ → σ) :
    runFrom (modifyState f) session = (.ok (), { session with state := f session.state }) := rfl

theorem runFrom_bind (action : Action σ α) (next : α → Action σ β) (session : Session σ) :
    (action >>= next).runFrom session =
      match (action.runFrom session).1 with
      | .ok a => (next a).runFrom (action.runFrom session).2
      | .error fault => (.error fault, (action.runFrom session).2) := by
  change ExceptT.bindCont next (action.runFrom session).1 (action.runFrom session).2 = _
  cases (action.runFrom session).1 with
  | ok a => rfl
  | error fault => rfl

theorem runFrom_bind_ok {a : α} (h : action.runFrom session = (.ok a, after)) :
    (action >>= next).runFrom session = (next a).runFrom after := by
  rw [runFrom_bind, h]

theorem runFrom_bind_error {fault : Fault} (h : action.runFrom session = (.error fault, after)) :
    (action >>= next).runFrom session = (.error fault, after) := by
  rw [runFrom_bind, h]

theorem runFrom_attempt (action : Action σ α) (session : Session σ) :
    action.attempt.runFrom session =
      (.ok (action.runFrom session).1, (action.runFrom session).2) := rfl

theorem runFrom_attempt_bind {outcome : Except Fault α} {next : Except Fault α → Action σ β}
    (h : action.runFrom session = (outcome, after)) :
    (action.attempt >>= next).runFrom session = (next outcome).runFrom after := by
  rw [runFrom_bind_ok (runFrom_attempt action session), h]

theorem mapM_ofExcept (f : α → Except Fault β) (as : List α) :
    as.mapM (fun a => (ofExcept (f a) : Action σ β)) = ofExcept (as.mapM f) := by
  induction as with
  | nil => rfl
  | cons a as ih =>
      rw [List.mapM_cons, List.mapM_cons, ih]
      cases f a with
      | error fault => rfl
      | ok b => cases as.mapM f <;> rfl

end Action

end TableRecords
