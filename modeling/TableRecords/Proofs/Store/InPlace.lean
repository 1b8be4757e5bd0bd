import Mathlib
import TableRecords.Proofs.Store.Sendings
import TableRecords.Store.InPlace

/-! # What becomes of objects changed in place

Where everything that can fail comes before the first assignment, a fault leaves the object as it
was. Such an action goes as it goes on a copy, which is handed over when it succeeds.
-/

namespace TableRecords

variable {σ τ υ α β γ : Type}

theorem Action.ext_run {action other : Action σ α}
    (h : ∀ session, action.runFrom session = other.runFrom session) : action = other := funext h

namespace InPlace

variable {action : InPlace τ σ α} {next : α → InPlace τ σ β} {t : τ} {session : Session σ}
  {after : Session (σ × τ)}

theorem runFrom_runOn {outcome : Except Fault α}
    (h : action.runFrom ⟨(session.state, t), session.journal⟩ = (outcome, after)) :
    (action.runOn t).runFrom session = (.ok (outcome, after.state.2), after.forget) :=
  congrArg (fun run => (Except.ok (run.1, run.2.state.2), run.2.forget)) h

theorem runFrom_value_ok {a : α}
    (h : action.runFrom ⟨(session.state, t), session.journal⟩ = (.ok a, after)) :
    (action.value t).runFrom session = (.ok (a, after.state.2), after.forget) :=
  Action.runFrom_bind_ok (runFrom_runOn h)

theorem runFrom_value_error {fault : Fault}
    (h : action.runFrom ⟨(session.state, t), session.journal⟩ = (.error fault, after)) :
    (action.value t).runFrom session = (.error fault, after.forget) :=
  Action.runFrom_bind_ok (runFrom_runOn h)

@[simp] theorem value_bind (action : InPlace τ σ α) (next : α → InPlace τ σ β) (t : τ) :
    InPlace.value (action >>= next) t =
      action.value t >>= fun found => (next found.1).value found.2 := by
  refine Action.ext_run fun session => ?_
  cases h : action.runFrom ⟨(session.state, t), session.journal⟩ with
  | mk outcome after =>
      cases outcome with
      | error fault =>
          rw [Action.runFrom_bind_error (runFrom_value_error h)]
          exact runFrom_value_error (Action.runFrom_bind_error h)
      | ok a =>
          rw [Action.runFrom_bind_ok (runFrom_value_ok h)]
          cases hn : (next a).runFrom after with
          | mk ended last =>
              have hboth : (action >>= next).runFrom ⟨(session.state, t), session.journal⟩ =
                  (ended, last) := (Action.runFrom_bind_ok h).trans hn
              cases ended with
              | error fault => exact (runFrom_value_error hboth).trans (runFrom_value_error hn).symm
              | ok b => exact (runFrom_value_ok hboth).trans (runFrom_value_ok hn).symm

@[simp] theorem value_onStore (action : Action σ α) (t : τ) :
    (onStore action).value t = action >>= fun a => pure (a, t) := by
  refine Action.ext_run fun session => ?_
  rw [Action.runFrom_bind]
  cases h : action.runFrom session with
  | mk outcome after =>
      have hrun : (onStore action).runFrom ⟨(session.state, t), session.journal⟩ =
          (outcome, ⟨(after.state, t), after.journal⟩) :=
        congrArg (fun run => (run.1, Session.mk (run.2.state, t) run.2.journal)) h
      cases outcome with
      | error fault => exact runFrom_value_error hrun
      | ok a => exact runFrom_value_ok hrun

@[simp] theorem value_ofExcept (outcome : Except Fault α) (t : τ) :
    InPlace.value (Action.ofExcept outcome) t =
      (Action.ofExcept outcome >>= fun a => pure (a, t) : Action σ (α × τ)) := by
  cases outcome <;> rfl

@[simp] theorem value_pure (a : α) (t : τ) :
    InPlace.value (pure a) t = (pure (a, t) : Action σ (α × τ)) := rfl

@[simp] theorem value_throw (fault : Fault) (t : τ) :
    InPlace.value (throw fault) t = (throw fault : Action σ (α × τ)) := rfl

@[simp] theorem value_log (entry : Entry) (t : τ) : InPlace.value (Action.log entry) t =
    (Action.log entry >>= fun _ => pure ((), t) : Action σ (Unit × τ)) := rfl

@[simp] theorem value_held (t : τ) : held.value t = (pure (t, t) : Action σ (τ × τ)) := rfl

@[simp] theorem value_assign (t' t : τ) :
    (assign t').value t = (pure ((), t') : Action σ (Unit × τ)) := rfl

def part (get : υ → τ) (put : υ → τ → υ) (action : InPlace τ σ α) : InPlace υ σ α :=
  ExceptT.mk fun session =>
    let (outcome, after) := action.runFrom ⟨(session.state.1, get session.state.2), session.journal⟩
    (outcome, ⟨(after.state.1, put session.state.2 after.state.2), after.journal⟩)

def taking (action : τ → Action σ β) (put : τ → β → τ) : InPlace τ σ Unit := do
  let t ← held
  let b ← onStore (action t)
  assign (put t b)

theorem value_part (get : υ → τ) (put : υ → τ → υ) (action : InPlace τ σ α) (u : υ) :
    (part get put action).value u =
      action.value (get u) >>= fun found => pure (found.1, put u found.2) := by
  refine Action.ext_run fun session => ?_
  cases h : action.runFrom ⟨(session.state, get u), session.journal⟩ with
  | mk outcome after =>
      have hpart : (part get put action).runFrom ⟨(session.state, u), session.journal⟩ =
          (outcome, ⟨(after.state.1, put u after.state.2), after.journal⟩) :=
        congrArg (fun run => (run.1, Session.mk (run.2.state.1, put u run.2.state.2) run.2.journal))
          h
      cases outcome with
      | error fault =>
          rw [Action.runFrom_bind_error (runFrom_value_error h)]
          exact runFrom_value_error hpart
      | ok a =>
          rw [Action.runFrom_bind_ok (runFrom_value_ok h)]
          exact runFrom_value_ok hpart

theorem value_taking (action : τ → Action σ β) (put : τ → β → τ) (t : τ) :
    (taking action put).value t = action t >>= fun b => pure ((), put t b) := by
  simp [taking]

theorem changed_of_value {change : InPlace τ Unit Unit} {outcome : Except Fault τ}
    (h : change.value t = Action.ofExcept outcome >>= fun after => pure ((), after)) :
    change.changed t = outcome := by
  have hrun := congrArg (fun action => (Action.runFrom action ⟨(), []⟩).1) h
  cases hc : change.runFrom ⟨((), t), []⟩ with
  | mk ended after =>
      rw [changed, alone, hc]
      cases ended with
      | error fault =>
          rw [runFrom_value_error hc] at hrun
          cases outcome <;> cases hrun
          rfl
      | ok u =>
          rw [runFrom_value_ok hc] at hrun
          cases outcome <;> cases hrun
          rfl

theorem alone_of_changed_ok {change : InPlace τ Unit Unit} {after : τ}
    (h : change.changed t = .ok after) : change.alone t = (.ok (), after) := by
  rw [changed] at h
  obtain ⟨u, hu, rfl⟩ := Outcome.map_eq_ok.1 h
  exact Prod.ext hu rfl

/-! ## Frames -/

/-- A fault leaves the object as it was. -/
def Framed (action : InPlace τ σ α) : Prop :=
  ∀ session fault, (action.runFrom session).1 = .error fault →
    (action.runFrom session).2.state.2 = session.state.2

def Keeps (action : InPlace τ σ α) : Prop :=
  ∀ session, (action.runFrom session).2.state.2 = session.state.2

def Succeeds (action : InPlace τ σ α) : Prop :=
  ∀ session, ∃ a, (action.runFrom session).1 = .ok a

theorem Keeps.framed (h : action.Keeps) : action.Framed := fun session _ _ => h session

theorem Succeeds.framed (h : action.Succeeds) : action.Framed := by
  intro session fault hf
  obtain ⟨a, ha⟩ := h session
  rw [ha] at hf
  cases hf

theorem keeps_held : (held : InPlace τ σ τ).Keeps := fun _ => rfl

theorem keeps_onStore (action : Action σ α) : (onStore action : InPlace τ σ α).Keeps := fun _ => rfl

theorem keeps_ofExcept (outcome : Except Fault α) :
    Keeps (Action.ofExcept outcome : InPlace τ σ α) := fun _ => rfl

theorem keeps_pure (a : α) : Keeps (pure a : InPlace τ σ α) := fun _ => rfl

theorem keeps_throw (fault : Fault) : Keeps (throw fault : InPlace τ σ α) := fun _ => rfl

theorem keeps_log (entry : Entry) : Keeps (Action.log entry : InPlace τ σ Unit) := fun _ => rfl

theorem succeeds_assign (t : τ) : (assign t : InPlace τ σ Unit).Succeeds := fun _ => ⟨(), rfl⟩

theorem succeeds_log (entry : Entry) : Succeeds (Action.log entry : InPlace τ σ Unit) :=
  fun _ => ⟨(), rfl⟩

theorem succeeds_pure (a : α) : Succeeds (pure a : InPlace τ σ α) := fun _ => ⟨a, rfl⟩

/-- What comes before the first assignment may fail. -/
theorem Keeps.bind_framed (h : action.Keeps) (hn : ∀ a, (next a).Framed) :
    Framed (action >>= next) := by
  intro session fault
  rw [Action.runFrom_bind]
  cases (action.runFrom session).1 with
  | error _ => exact fun _ => h session
  | ok a => exact fun hf => (hn a _ fault hf).trans (h session)

/-- What comes after an assignment may not. -/
theorem Framed.bind_succeeds (h : action.Framed) (hn : ∀ a, (next a).Succeeds) :
    Framed (action >>= next) := by
  intro session fault
  rw [Action.runFrom_bind]
  cases ha : (action.runFrom session).1 with
  | error _ => exact fun _ => h session _ ha
  | ok a =>
      obtain ⟨b, hb⟩ := hn a (action.runFrom session).2
      exact fun hf => absurd (hb.symm.trans hf) nofun

theorem Framed.part (h : action.Framed) {get : υ → τ} {put : υ → τ → υ}
    (hput : ∀ u, put u (get u) = u) : (part get put action).Framed := fun session fault hf =>
  (congrArg (put session.state.2) (h _ fault hf)).trans (hput session.state.2)

theorem Framed.alone_of_changed_error {change : InPlace τ Unit Unit} (h : change.Framed)
    {fault : Fault} (hf : change.changed t = .error fault) :
    change.alone t = (.error fault, t) := by
  have hfault := Outcome.map_eq_error.1 hf
  exact Prod.ext hfault (h ⟨((), t), []⟩ fault hfault)

theorem framed_taking (action : τ → Action σ β) (put : τ → β → τ) :
    (taking action put).Framed :=
  keeps_held.bind_framed fun t => (keeps_onStore (action t)).bind_framed fun b =>
    (succeeds_assign (put t b)).framed

/-- How an action on an object ends, and the object after it, where it goes as on a copy. -/
def ending (t : τ) : Except Fault (α × τ) → Except Fault α × τ
  | .ok (a, after) => (.ok a, after)
  | .error fault => (.error fault, t)

theorem ending_error {result : Except Fault (α × τ)} {fault : Fault}
    (h : (ending t result).1 = .error fault) :
    result = .error fault ∧ (ending t result).2 = t := by
  cases result with
  | ok found => cases h
  | error other =>
      cases h
      exact ⟨rfl, rfl⟩

theorem Framed.runOn_eq (h : action.Framed) (t : τ) :
    action.runOn t = (action.value t).attempt >>= fun result => pure (ending t result) := by
  refine Action.ext_run fun session => ?_
  cases hr : action.runFrom ⟨(session.state, t), session.journal⟩ with
  | mk outcome after =>
      rw [runFrom_runOn hr]
      cases outcome with
      | ok a =>
          rw [Action.runFrom_attempt_bind (runFrom_value_ok hr)]
          rfl
      | error fault =>
          have hkept := h ⟨(session.state, t), session.journal⟩ fault (congrArg Prod.fst hr)
          rw [hr] at hkept
          rw [Action.runFrom_attempt_bind (runFrom_value_error hr), hkept]
          rfl

end InPlace

namespace Database

variable {db : Database σ}

theorem Always.attempt {noted : Action (σ × List (Event Unit)) α} {plain : Action σ α}
    {Q : List Sending → Except Fault (Except Fault α) → Prop}
    (h : db.Always noted plain fun sent outcome => Q sent (.ok outcome)) :
    db.Always noted.attempt plain.attempt Q := by
  intro s
  obtain ⟨sent, outcome, s', hs, hQ⟩ := h s
  exact ⟨sent, .ok outcome, s', hs.attempt, hQ⟩

theorem Always.taking {noted : τ → Action (σ × List (Event Unit)) β} {plain : τ → Action σ β}
    {put : τ → β → τ} {t : τ} {Q : List Sending → Except Fault (Unit × τ) → Prop}
    (h : db.Always (noted t) (plain t) fun sent outcome =>
      Q sent ((fun b => ((), put t b)) <$> outcome)) :
    db.Always ((InPlace.taking noted put).value t) ((InPlace.taking plain put).value t) Q := by
  rw [InPlace.value_taking, InPlace.value_taking]
  exact .map h

theorem Always.part {noted : InPlace τ (σ × List (Event Unit)) α} {plain : InPlace τ σ α}
    {get : υ → τ} {put : υ → τ → υ} {u : υ} {Q : List Sending → Except Fault (α × υ) → Prop}
    (h : db.Always (noted.value (get u)) (plain.value (get u)) fun sent outcome =>
      Q sent ((fun found => (found.1, put u found.2)) <$> outcome)) :
    db.Always ((noted.part get put).value u) ((plain.part get put).value u) Q := by
  rw [InPlace.value_part, InPlace.value_part]
  exact .map h

/-- What an action on an object sends, how it ends, and what becomes of the object. -/
def AlwaysOn (db : Database σ) (noted : InPlace τ (σ × List (Event Unit)) α)
    (plain : InPlace τ σ α) (t : τ) (P : List Sending → Except Fault α → τ → Prop) : Prop :=
  db.Always (noted.runOn t) (plain.runOn t) fun sent ended =>
    ∃ outcome after, ended = .ok (outcome, after) ∧ P sent outcome after

variable {noted : InPlace τ (σ × List (Event Unit)) α} {plain : InPlace τ σ α} {t after : τ}
  {P : List Sending → Except Fault α → τ → Prop} {s s' : σ} {sent : List Sending}
  {outcome : Except Fault α}

/-- Where faults leave the object alone, it is enough to follow the action on a copy. -/
theorem Always.on (hn : noted.Framed) (hp : plain.Framed)
    (h : db.Always (noted.value t) (plain.value t)
      fun sent result => P sent (InPlace.ending t result).1 (InPlace.ending t result).2) :
    db.AlwaysOn noted plain t P := by
  rw [AlwaysOn, hn.runOn_eq, hp.runOn_eq]
  refine .map (.attempt (h.imp fun sent result hP => ?_))
  exact ⟨_, _, rfl, hP⟩

namespace AlwaysOn

theorem exists_sends (h : db.AlwaysOn noted plain t P) (s : σ) : ∃ sent outcome after s',
    db.Sends (noted.runOn t) (plain.runOn t) s sent (.ok (outcome, after)) s' ∧
      P sent outcome after := by
  obtain ⟨sent, _, s', hs, outcome, after, rfl, hP⟩ := h s
  exact ⟨sent, outcome, after, s', hs, hP⟩

theorem of_sends (h : db.AlwaysOn noted plain t P)
    (hs : db.Sends (noted.runOn t) (plain.runOn t) s sent (.ok (outcome, after)) s') :
    P sent outcome after := by
  obtain ⟨_, _, hended, hP⟩ := Always.of_sends h hs
  cases hended
  exact hP

end AlwaysOn

end Database

end TableRecords
