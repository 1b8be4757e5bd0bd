import TableRecords.Store.Basic

/-! # Objects changed in place

What is done with a record or a table may change it. Such an action runs on the store with the
object beside it, so that a fault leaves the object as it had been assigned until then.
-/

namespace TableRecords

/-- An action on a store and on one object that it may assign. -/
abbrev InPlace (τ σ α : Type) : Type := Action (σ × τ) α

namespace InPlace

variable {σ τ α : Type}

def held : InPlace τ σ τ := do
  let state ← Action.state
  pure state.2

def assign (t : τ) : InPlace τ σ Unit := Action.modifyState fun state => (state.1, t)

def onStore (action : Action σ α) : InPlace τ σ α :=
  ExceptT.mk fun session =>
    let (outcome, after) := action.runFrom ⟨session.state.1, session.journal⟩
    (outcome, ⟨(after.state, session.state.2), after.journal⟩)

/-- How the action ends on an object, and what becomes of the object. -/
def runOn (action : InPlace τ σ α) (t : τ) : Action σ (Except Fault α × τ) :=
  ExceptT.mk fun session =>
    let (outcome, after) := action.runFrom ⟨(session.state, t), session.journal⟩
    (.ok (outcome, after.state.2), ⟨after.state.1, after.journal⟩)

/-- Runs on a copy of an object, which is handed over with the value. -/
def value (action : InPlace τ σ α) (t : τ) : Action σ (α × τ) := do
  let (outcome, after) ← action.runOn t
  let a ← Action.ofExcept outcome
  pure (a, after)

/-- How a change that takes no store ends, and the object after it. -/
def alone (change : InPlace τ Unit α) (t : τ) : Except Fault α × τ :=
  let (outcome, after) := change.runFrom ⟨((), t), []⟩
  (outcome, after.state.2)

/-- A copy of an object with a change that takes no store. -/
def changed (change : InPlace τ Unit Unit) (t : τ) : Except Fault τ :=
  let (outcome, after) := change.alone t
  (fun _ => after) <$> outcome

end InPlace

end TableRecords
