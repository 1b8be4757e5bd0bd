import Mathlib
import TableRecords.Proofs.Store.Sendings

/-! # Guarantees

What an action guarantees of its outcome and of the state it leaves the store in, when it starts
from a given state, whatever is in the journal. There is a rule for each way actions are put
together, so a guarantee is shown by following the code.
-/

namespace TableRecords

variable {σ α β : Type}

/-- Whether an action that starts from a state ends with an outcome and in a state that satisfy a
property. -/
def Action.Ensures (action : Action σ α) (s : σ) (post : Except Fault α → σ → Prop) : Prop :=
  ∀ journal, post (action.runFrom ⟨s, journal⟩).1 (action.runFrom ⟨s, journal⟩).2.state

def Action.Gives (action : Action σ α) (s : σ) (a : α) (t : σ) : Prop :=
  action.Ensures s fun outcome after => outcome = .ok a ∧ after = t

namespace Action

variable {action : Action σ α} {next : α → Action σ β} {s t : σ} {a : α}
  {post post' : Except Fault α → σ → Prop} {result : Except Fault β → σ → Prop}

theorem Ensures.of_session {session : Session σ} (h : action.Ensures session.state post) :
    post (action.runFrom session).1 (action.runFrom session).2.state := h session.journal

theorem Ensures.imp (h : action.Ensures s post)
    (hp : ∀ outcome after, post outcome after → post' outcome after) : action.Ensures s post' :=
  fun journal => hp _ _ (h journal)

theorem Ensures.and (h : action.Ensures s post) (h' : action.Ensures s post') :
    action.Ensures s fun outcome after => post outcome after ∧ post' outcome after :=
  fun journal => ⟨h journal, h' journal⟩

theorem Ensures.ofExcept {outcome : Except Fault α} (h : post outcome s) :
    (Action.ofExcept outcome).Ensures s post := fun _ => h

theorem Ensures.pure (h : post (.ok a) s) : (Pure.pure a : Action σ α).Ensures s post := fun _ => h

theorem Ensures.throw {fault : Fault} (h : post (.error fault) s) :
    (MonadExcept.throw fault : Action σ α).Ensures s post := fun _ => h

theorem Ensures.log {post : Except Fault Unit → σ → Prop} (entry : Entry) (h : post (.ok ()) s) :
    (Action.log entry).Ensures s post := fun _ => h

theorem Ensures.bind (h : action.Ensures s post)
    (hok : ∀ a after, post (.ok a) after → (next a).Ensures after result)
    (herror : ∀ fault after, post (.error fault) after → result (.error fault) after) :
    (action >>= next).Ensures s result := by
  intro journal
  have hfirst := h journal
  rw [runFrom_bind]
  cases houtcome : (action.runFrom ⟨s, journal⟩).1 with
  | ok a =>
      rw [houtcome] at hfirst
      exact hok a _ hfirst (action.runFrom ⟨s, journal⟩).2.journal
  | error fault =>
      rw [houtcome] at hfirst
      exact herror fault _ hfirst

theorem Ensures.attempt_bind {next : Except Fault α → Action σ β} (h : action.Ensures s post)
    (hn : ∀ outcome after, post outcome after → (next outcome).Ensures after result) :
    (action.attempt >>= next).Ensures s result := by
  intro journal
  rw [runFrom_attempt_bind (Prod.mk.eta (p := action.runFrom ⟨s, journal⟩)).symm]
  exact hn _ _ (h journal) _

theorem Gives.bind (h : action.Gives s a t) (hn : (next a).Ensures t result) :
    (action >>= next).Ensures s result := by
  refine Ensures.bind h ?_ ?_
  · rintro b after ⟨hb, rfl⟩
    cases hb
    exact hn
  · rintro fault after ⟨hb, -⟩
    cases hb

theorem Gives.ofExcept {outcome : Except Fault α} (h : outcome = .ok a) :
    (Action.ofExcept outcome).Gives s a s := Ensures.ofExcept ⟨h, rfl⟩

theorem Ensures.ofExcept_bind {outcome : Except Fault α}
    (hok : ∀ a, outcome = .ok a → (next a).Ensures s result)
    (herror : ∀ fault, outcome = .error fault → result (.error fault) s) :
    (Action.ofExcept outcome >>= next).Ensures s result := by
  cases outcome with
  | ok a => exact (Gives.ofExcept rfl).bind (hok a rfl)
  | error fault => exact fun journal => herror fault rfl

theorem Gives.state (s : σ) : Action.state.Gives s s s := fun _ => ⟨rfl, rfl⟩

theorem Gives.modifyState (f : σ → σ) (s : σ) : (Action.modifyState f).Gives s () (f s) :=
  fun _ => ⟨rfl, rfl⟩

theorem Gives.log (entry : Entry) : (Action.log entry).Gives s () s := Ensures.log entry ⟨rfl, rfl⟩

end Action

namespace Database

variable {db : Database σ} {s t : σ} {statement : Statement} {reply : Reply} {body : Action σ α}

theorem ensures_run {post : Except Fault Reply → σ → Prop}
    (h : ∀ outcome after, db.store.send s statement = (outcome, after) → post outcome after) :
    (db.run statement).Ensures s post := fun _ => h _ _ rfl

theorem gives_run (h : db.store.send s statement = (.ok reply, t)) :
    (db.run statement).Gives s reply t := by
  refine ensures_run fun outcome after hs => ?_
  rw [h] at hs
  cases hs
  exact ⟨rfl, rfl⟩

theorem gives_query (h : db.store.send s statement = (.ok reply, t)) :
    (db.query statement).Gives s reply.rows t := (gives_run h).bind (.pure ⟨rfl, rfl⟩)

theorem gives_queryRow (h : db.store.send s statement = (.ok reply, t)) :
    (db.queryRow statement).Gives s reply.rows.head? t := (gives_run h).bind (.pure ⟨rfl, rfl⟩)

theorem gives_execute (h : db.store.send s statement = (.ok reply, t)) :
    (db.execute statement).Gives s (max reply.affected 0) t :=
  (gives_run h).bind (.pure ⟨rfl, rfl⟩)

theorem gives_inTransaction (db : Database σ) (s : σ) :
    db.inTransaction.Gives s (db.store.inTransaction s) s := fun _ => ⟨rfl, rfl⟩

theorem ensures_conclude (ended : Except Fault α) (s : σ) :
    (db.conclude ended).Ensures s fun result after =>
      ∃ sendings, db.store.Concludes ended s sendings result after := by
  intro journal
  obtain ⟨closing, result, after, hc, hleads⟩ := db.leads_conclude ended s
  obtain ⟨journal', hrun⟩ := hleads.plain (refines_conclude ended) journal
  rw [hrun]
  exact ⟨closing, hc⟩

theorem ensures_joined {post : Except Fault α → σ → Prop} (hopen : db.store.inTransaction s = true)
    (h : body.Ensures s post) : (db.transaction body).Ensures s post := by
  rw [transaction_eq]
  refine (gives_inTransaction db s).bind ?_
  rw [if_pos hopen]
  exact h

/-- A transaction that is not inside of another is refused, or its body runs and it is concluded. -/
theorem ensures_outermost {mid post : Except Fault α → σ → Prop}
    (closed : db.store.inTransaction s = false)
    (refused : ∀ fault after, db.store.send s beginStatement = (.error fault, after) →
      post (.error fault) after)
    (begun : ∀ reply after, db.store.send s beginStatement = (.ok reply, after) →
      body.Ensures after mid)
    (concluded : ∀ ended before sendings result after, mid ended before →
      db.store.Concludes ended before sendings result after → post result after) :
    (db.transaction body).Ensures s post := by
  rw [transaction_eq]
  refine (gives_inTransaction db s).bind ?_
  rw [closed]
  refine Action.Ensures.bind (ensures_run fun outcome after hs => hs) ?_ refused
  intro reply after hs
  refine Action.Ensures.attempt_bind (begun reply after hs) fun ended before hmid => ?_
  refine (ensures_conclude ended before).imp ?_
  rintro result final ⟨sendings, hc⟩
  exact concluded ended before sendings result final hmid hc

end Database

end TableRecords
