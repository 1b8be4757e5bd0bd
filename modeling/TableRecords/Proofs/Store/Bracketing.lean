import Mathlib
import TableRecords.Proofs.Store.Sendings

/-! # Bracketing

In every run, whatever the store answers, a transaction inside an open one sends nothing of its own;
any other begins before its body and is over when it is left, unless the store refuses to roll back.
The store may end a transaction by itself in the middle of a body: what is called for after that is
an outermost transaction again.
-/

namespace TableRecords

variable {σ α : Type}

/-- What is assumed of a statement that was sent: a store refuses with one of its own errors, only
success opens a transaction, and what is committed or rolled back is over. -/
structure Sending.Regular (sending : Sending) : Prop where
  refusal : ∀ fault, sending.outcome = .error fault → fault.isStoreError = true
  opens : sending.after = true → sending.before = true ∨ ∃ reply, sending.outcome = .ok reply
  ends : sending.statement = Database.commitStatement ∨
    sending.statement = Database.rollbackStatement →
      ∀ reply, sending.outcome = .ok reply → sending.after = false

theorem Playback.outcome_of_sending {p : Playback} (hopen : p.isOpen = true)
    (statement : Statement) : (Playback.store.sending p statement).outcome =
      (p.replies.headD default).outcome := by
  simp [Store.sending, Playback.store, Playback.send, hopen]

theorem Playback.sending_regular_of_open {p : Playback}
    (h : ∀ reply ∈ p.replies, ∀ fault, reply.outcome = .error fault → fault.isStoreError = true)
    (hopen : p.isOpen = true) (statement : Statement) :
    (Playback.store.sending p statement).Regular := by
  have houtcome := Playback.outcome_of_sending hopen statement
  constructor
  · intro fault hf
    rw [houtcome] at hf
    cases hreplies : p.replies with
    | nil =>
        rw [hreplies] at hf
        cases hf
    | cons reply rest =>
        rw [hreplies] at hf
        exact h reply (by simp [hreplies]) fault hf
  · intro hafter
    cases hreply : (p.replies.headD default).outcome with
    | ok reply => exact Or.inr ⟨reply, houtcome.trans hreply⟩
    | error fault =>
        refine Or.inl ?_
        simp only [Store.sending, Playback.store, Playback.send, hopen, if_true, hreply] at hafter
        split at hafter
        · cases hafter
        · exact hafter
  · intro hstatement reply hr
    rw [houtcome] at hr
    simp only [Store.sending, Playback.store, Playback.send, hopen, if_true, hr]
    rcases hstatement with rfl | rfl
    · rfl
    · rfl

theorem Playback.sending_regular_of_closed {p : Playback} (hclosed : p.isOpen = false)
    (statement : Statement) : (Playback.store.sending p statement).Regular := by
  have hsend : Playback.store.send p statement = (.error Playback.closedFault, p) := by
    simp [Playback.store, Playback.send, hclosed]
  constructor
  · intro fault hf
    rw [Store.sending, hsend] at hf
    rw [← Except.error.inj hf]
    rfl
  · intro hafter
    rw [Store.sending, hsend] at hafter
    exact Or.inl hafter
  · intro _ reply hr
    rw [Store.sending, hsend] at hr
    cases hr

/-- A store that plays back no faults but those of stores answers as assumed, also when it ends a
transaction by itself. -/
theorem Playback.sending_regular {p : Playback}
    (h : ∀ reply ∈ p.replies, ∀ fault, reply.outcome = .error fault → fault.isStoreError = true)
    (statement : Statement) : (Playback.store.sending p statement).Regular := by
  cases hopen : p.isOpen with
  | true => exact sending_regular_of_open h hopen statement
  | false => exact sending_regular_of_closed hopen statement

structure Call.Bracketed (call : Call α) : Prop where
  joins : call.wasOpen = true →
    call.opening = [] ∧ call.closing = [] ∧ call.body = some call.outcome
  begins : call.wasOpen = false →
    ∃ sending, call.opening = [sending] ∧ sending.statement = Database.beginStatement ∧
      (∀ reply, sending.outcome = .ok reply → ∃ ended, call.body = some ended) ∧
      ∀ fault, sending.outcome = .error fault →
        call.body = none ∧ call.closing = [] ∧ call.outcome = .error fault
  begins_closed : ∀ sending ∈ call.sent,
    sending.statement = Database.beginStatement → sending.before = false
  rolls_back_open : ∀ sending ∈ call.sent,
    sending.statement = Database.rollbackStatement → sending.before = true
  leaves_closed : call.wasOpen = false →
    (∀ sending ∈ call.sent, sending.Regular) → call.leftOpen = true →
      ∃ sending ∈ call.closing, sending.statement = Database.rollbackStatement ∧
        ∃ fault, sending.outcome = .error fault ∧ call.outcome = .error fault

/-- What is noted of a run: statements the program sends itself, and calls that satisfy a property,
down to those inside of others. -/
inductive Bracketing (P : Call α → Prop) : List (Event α) → Prop
  | nil : Bracketing P []
  | direct {sending rest} (h : Bracketing P rest) : Bracketing P (.asked :: .sent sending :: rest)
  | call {call inner rest} (hp : P call) (hi : Bracketing P inner) (h : Bracketing P rest) :
      Bracketing P (call.events inner ++ rest)

namespace Store

variable {store : Store σ} {s s' : σ} {closing : List Sending}

/-- Nothing is open after a rollback, unless it is refused. -/
theorem RollsBack.leaves {rolled : Except Fault Unit} (h : store.RollsBack s closing rolled s')
    (regular : ∀ sending ∈ closing, sending.Regular) (hopen : store.inTransaction s' = true) :
    ∃ sending ∈ closing, sending.statement = Database.rollbackStatement ∧
      ∃ fault, sending.outcome = .error fault ∧ rolled = .error fault := by
  cases h with
  | closed hclosed =>
      rw [hclosed] at hopen
      cases hopen
  | done _ hs =>
      obtain ⟨houtcome, hafter⟩ := sending_outcome hs
      have hends := (regular _ (by simp)).ends (Or.inr rfl) _ houtcome
      rw [hafter, hopen] at hends
      cases hends
  | refused _ hs => exact ⟨_, by simp, rfl, _, (sending_outcome hs).1, rfl⟩

theorem Concludes.leaves {ended result : Except Fault α}
    (h : store.Concludes ended s closing result s')
    (regular : ∀ sending ∈ closing, sending.Regular) (hopen : store.inTransaction s' = true) :
    ∃ sending ∈ closing, sending.statement = Database.rollbackStatement ∧
      ∃ fault, sending.outcome = .error fault ∧ result = .error fault := by
  cases h with
  | committed hs =>
      obtain ⟨houtcome, hafter⟩ := sending_outcome hs
      have hends := (regular _ (by simp)).ends (Or.inl rfl) _ houtcome
      rw [hafter, hopen] at hends
      cases hends
  | refused _ _ hr =>
      obtain ⟨sending, hm, hstatement, fault, houtcome, rfl⟩ :=
        hr.leaves (fun sending hm => regular sending (List.mem_cons_of_mem _ hm)) hopen
      exact ⟨sending, List.mem_cons_of_mem _ hm, hstatement, fault, houtcome, rfl⟩
  | broken hs hf =>
      have hstore := (regular _ (by simp)).refusal _ (sending_outcome hs).1
      rw [hf] at hstore
      cases hstore
  | abandoned hr =>
      obtain ⟨sending, hm, hstatement, fault, houtcome, rfl⟩ := hr.leaves regular hopen
      exact ⟨sending, hm, hstatement, fault, houtcome, rfl⟩

end Store

variable {store : Store σ} {s s' : σ}

theorem bracketed_joined (ended : Except Fault α) (leftOpen : Bool) :
    (Call.joined ended leftOpen).Bracketed where
  joins _ := ⟨rfl, rfl, rfl⟩
  begins h := by cases h
  begins_closed := by simp
  rolls_back_open := by simp
  leaves_closed h := by cases h

theorem bracketed_unbegun {fault : Fault} (hopen : store.inTransaction s = false)
    (hs : store.send s Database.beginStatement = (.error fault, s')) :
    (Call.unbegun (store.sending s Database.beginStatement) fault (store.inTransaction s') :
      Call α).Bracketed where
  joins h := by cases h
  begins _ := by
    have houtcome := (Store.sending_outcome hs).1
    refine ⟨_, rfl, rfl, fun reply hr => ?_, fun other ho => ⟨rfl, rfl, ?_⟩⟩
    · rw [houtcome] at hr
      cases hr
    · rw [houtcome] at ho
      rw [← Except.error.inj ho]
      rfl
  begins_closed := by simp [Store.sending, hopen]
  rolls_back_open := by simp [Store.sending, beginStatement_ne_rollback]
  leaves_closed _ regular hleft := by
    obtain ⟨houtcome, hafter⟩ := Store.sending_outcome hs
    rcases (regular _ (by simp)).opens (hafter.trans hleft) with hbefore | ⟨reply, hreply⟩
    · rw [Store.sending, hopen] at hbefore
      cases hbefore
    · rw [houtcome] at hreply
      cases hreply

theorem bracketed_begun {reply : Reply} {s₁ s₂ s₃ : σ} {ended result : Except Fault α}
    {closing : List Sending} (hopen : store.inTransaction s = false)
    (hs : store.send s Database.beginStatement = (.ok reply, s₁))
    (hc : store.Concludes ended s₂ closing result s₃) :
    (Call.begun (store.sending s Database.beginStatement) ended closing result
      (store.inTransaction s₃)).Bracketed where
  joins h := by cases h
  begins _ := by
    refine ⟨_, rfl, rfl, fun _ _ => ⟨ended, rfl⟩, fun fault hf => ?_⟩
    rw [(Store.sending_outcome hs).1] at hf
    cases hf
  begins_closed := by
    intro sending hm hbegin
    rcases List.mem_cons.1 hm with rfl | hm
    · exact hopen
    · rcases hc.sent sending hm with hcommit | ⟨hrollback, -⟩
      · exact absurd (hcommit.symm.trans hbegin) commitStatement_ne_begin
      · exact absurd (hbegin.symm.trans hrollback) beginStatement_ne_rollback
  rolls_back_open := by
    intro sending hm hrollback
    rcases List.mem_cons.1 hm with rfl | hm
    · exact absurd hrollback beginStatement_ne_rollback
    · rcases hc.sent sending hm with hcommit | ⟨-, hbefore⟩
      · exact absurd (hcommit.symm.trans hrollback) commitStatement_ne_rollback
      · exact hbefore
  leaves_closed _ regular hleft :=
    hc.leaves (fun sending hm => regular sending (by simp [hm])) hleft

/-! ## Runs -/

theorem Program.Runs.bracketing {program : Program α} {outcome : Except Fault α}
    {log : List (Event α)} (h : program.Runs store s outcome log s') :
    Bracketing Call.Bracketed log := by
  induction h with
  | done => exact .nil
  | ask _ ih => exact ih
  | send _ ih => exact .direct ih
  | joined _ _ _ ihb ih => exact .call (bracketed_joined _ _) ihb ih
  | refused hopen hs _ ih => exact .call (bracketed_unbegun hopen hs) .nil ih
  | begun hopen hs _ hc _ ihb ih => exact .call (bracketed_begun hopen hs hc) ihb ih

/-- Every run is recorded as it is, and every transaction in it is bracketed. -/
theorem every_run_bracketed (db : Database σ) (program : Program α) (state : σ)
    (journal : List Entry) :
    ∃ outcome after log, (program.action db).runFrom ⟨state, journal⟩ = (outcome, after) ∧
      (program.recorded db).runFrom ⟨(state, []), journal⟩ =
        (outcome, ⟨(after.state, log), after.journal⟩) ∧
      Bracketing Call.Bracketed log := by
  obtain ⟨outcome, log, s', hruns, hleads⟩ := program.runs_recorded db state
  obtain ⟨journal', hrecorded⟩ := hleads [] journal
  have hplain := program.refines_recorded db ⟨(state, []), journal⟩
  rw [hrecorded] at hplain
  exact ⟨outcome, ⟨s', journal'⟩, log, hplain, hrecorded, hruns.bracketing⟩

def guardedChange : Program Unit :=
  .transact (.send ⟨"UPDATE notes SET title = NULL", []⟩ fun outcome =>
    .done (outcome.map fun _ => ())) .done

def lockedFault : Fault := .raised .operational "database is locked"

/-- A state in which a change is refused, and then the rollback. -/
def lockedPlayback : Playback where
  replies := [{}, { outcome := .error lockedFault }, { outcome := .error lockedFault }]

/-- A store that answers as assumed can leave a transaction open, if it refuses to roll back. -/
theorem refused_rollback_bracketed : ∃ log,
    ((guardedChange.recorded Playback.database).runFrom ⟨(lockedPlayback, []), []⟩).2.state.2 = log ∧
    Bracketing Call.Bracketed log ∧ (∀ sending, .sent sending ∈ log → sending.Regular) ∧
    .left (.error lockedFault) true ∈ log := by
  obtain ⟨outcome, after, log, -, hrecorded, hbracketing⟩ :=
    every_run_bracketed Playback.database guardedChange lockedPlayback []
  let change : Statement := ⟨"UPDATE notes SET title = NULL", []⟩
  let begun := (Playback.store.send lockedPlayback Database.beginStatement).2
  let refused := (Playback.store.send begun change).2
  have hlog : log = [.entered false, .sent (Playback.store.sending lockedPlayback
      Database.beginStatement), .started, .asked, .sent (Playback.store.sending begun change),
      .ended (.error lockedFault), .sent (Playback.store.sending refused
        Database.rollbackStatement), .left (.error lockedFault) true] :=
    (congrArg (fun run => run.2.state.2) hrecorded).symm
  have hown : ∀ p : Playback, p.replies ⊆ lockedPlayback.replies → ∀ statement,
      (Playback.store.sending p statement).Regular := by
    intro p hp
    refine Playback.sending_regular fun reply hm fault hf => ?_
    have hreply := hp hm
    simp only [lockedPlayback, List.mem_cons, List.not_mem_nil, or_false] at hreply
    rcases hreply with rfl | rfl | rfl <;> cases hf <;> rfl
  refine ⟨log, congrArg (fun run => run.2.state.2) hrecorded, hbracketing, ?_, by simp [hlog]⟩
  intro sending hm
  rw [hlog] at hm
  simp only [List.mem_cons, List.not_mem_nil, or_false, reduceCtorEq, false_or, Event.sent.injEq]
    at hm
  rcases hm with rfl | rfl | rfl
  · exact hown _ (List.Subset.refl _) _
  · exact hown _ (List.subset_cons_self _ _) _
  · exact hown _ (fun _ h => List.mem_cons_of_mem _ (List.mem_cons_of_mem _ h)) _

end TableRecords
