import Mathlib
import TableRecords.Proofs.Store.Recording

/-! # What runs do

What a run does is a relation with a rule for each step of a program and for each way a transaction
can go. Every recorded run follows it, so what holds of all transactions is shown by induction on
the relation.
-/

namespace TableRecords

variable {σ α β γ : Type}

def Database.reported (fault : Fault) : Fault :=
  if fault.isOrdinary then .transactionFailed fault "" else fault

/-- How what may be open is rolled back: what is sent, and how that ends. -/
inductive Store.RollsBack (store : Store σ) : σ → List Sending → Except Fault Unit → σ → Prop
  | closed {s} (h : store.inTransaction s = false) : RollsBack store s [] (.ok ()) s
  | done {s s' reply} (h : store.inTransaction s = true)
      (hs : store.send s Database.rollbackStatement = (.ok reply, s')) :
      RollsBack store s [store.sending s Database.rollbackStatement] (.ok ()) s'
  | refused {s s' fault} (h : store.inTransaction s = true)
      (hs : store.send s Database.rollbackStatement = (.error fault, s')) :
      RollsBack store s [store.sending s Database.rollbackStatement] (.error fault) s'

/-- How a transaction ends, given how its body ended. -/
inductive Store.Concludes (store : Store σ) :
    Except Fault α → σ → List Sending → Except Fault α → σ → Prop
  | committed {a s s' reply} (h : store.send s Database.commitStatement = (.ok reply, s')) :
      Concludes store (.ok a) s [store.sending s Database.commitStatement] (.ok a) s'
  | refused {a s s₁ s₂ fault sendings rolled}
      (h : store.send s Database.commitStatement = (.error fault, s₁))
      (hf : fault.isStoreError = true) (hr : store.RollsBack s₁ sendings rolled s₂) :
      Concludes store (.ok a) s (store.sending s Database.commitStatement :: sendings)
        (rolled >>= fun _ => .error fault) s₂
  | broken {a s s' fault} (h : store.send s Database.commitStatement = (.error fault, s'))
      (hf : fault.isStoreError = false) :
      Concludes store (.ok a) s [store.sending s Database.commitStatement] (.error fault) s'
  | abandoned {fault s s' sendings rolled} (hr : store.RollsBack s sendings rolled s') :
      Concludes store (.error fault) s sendings
        (rolled >>= fun _ => .error (Database.reported fault)) s'

theorem beginStatement_ne_rollback : Database.beginStatement ≠ Database.rollbackStatement := by
  intro h
  exact absurd (congrArg Statement.sql h) (by decide)

theorem commitStatement_ne_begin : Database.commitStatement ≠ Database.beginStatement := by
  intro h
  exact absurd (congrArg Statement.sql h) (by decide)

theorem commitStatement_ne_rollback : Database.commitStatement ≠ Database.rollbackStatement := by
  intro h
  exact absurd (congrArg Statement.sql h) (by decide)

namespace Store

variable {store : Store σ} {s s' : σ} {closing : List Sending}

theorem sending_outcome {statement : Statement} {outcome : Except Fault Reply}
    (h : store.send s statement = (outcome, s')) :
    (store.sending s statement).outcome = outcome ∧
      (store.sending s statement).after = store.inTransaction s' := by
  simp [sending, h]

/-- A rollback sends one statement at most, and only while a transaction is open. -/
theorem RollsBack.sent {rolled : Except Fault Unit} (h : store.RollsBack s closing rolled s') :
    ∀ sending ∈ closing,
      sending.statement = Database.rollbackStatement ∧ sending.before = true := by
  cases h with
  | closed => simp
  | done hopen _ => simp [sending, hopen]
  | refused hopen _ => simp [sending, hopen]

theorem Concludes.sent {ended result : Except Fault α}
    (h : store.Concludes ended s closing result s') :
    ∀ sending ∈ closing, sending.statement = Database.commitStatement ∨
      sending.statement = Database.rollbackStatement ∧ sending.before = true := by
  cases h with
  | committed _ => simp [sending]
  | refused _ _ hr =>
      intro sending hm
      rcases List.mem_cons.1 hm with rfl | hm
      · exact Or.inl rfl
      · exact Or.inr (hr.sent sending hm)
  | broken _ _ => simp [sending]
  | abandoned hr => exact fun sending hm => Or.inr (hr.sent sending hm)

end Store

/-! ## Calls -/

/-- A transaction as the program that called for it sees it: whether one was open, what was sent
before the body, how the body ended if it ran, what was sent after it, and what came of it. -/
structure Call (α : Type) where
  wasOpen : Bool
  opening : List Sending
  body : Option (Except Fault α)
  closing : List Sending
  outcome : Except Fault α
  leftOpen : Bool

namespace Call

/-- A call inside of an open transaction. -/
def joined (ended : Except Fault α) (leftOpen : Bool) : Call α :=
  ⟨true, [], some ended, [], ended, leftOpen⟩

/-- A call whose transaction the store refuses to begin. -/
def unbegun (opening : Sending) (fault : Fault) (leftOpen : Bool) : Call α :=
  ⟨false, [opening], none, [], .error fault, leftOpen⟩

/-- A call whose transaction is begun. -/
def begun (opening : Sending) (ended : Except Fault α) (closing : List Sending)
    (result : Except Fault α) (leftOpen : Bool) : Call α :=
  ⟨false, [opening], some ended, closing, result, leftOpen⟩

/-- What the call sent of its own. -/
def sent (call : Call α) : List Sending := call.opening ++ call.closing

@[simp] theorem sent_joined (ended : Except Fault α) (leftOpen : Bool) :
    (joined ended leftOpen).sent = [] := rfl

@[simp] theorem sent_unbegun (opening : Sending) (fault : Fault) (leftOpen : Bool) :
    (unbegun opening fault leftOpen : Call α).sent = [opening] := rfl

@[simp] theorem sent_begun (opening : Sending) (ended : Except Fault α) (closing : List Sending)
    (result : Except Fault α) (leftOpen : Bool) :
    (begun opening ended closing result leftOpen).sent = opening :: closing := rfl

def bodyEvents (inner : List (Event α)) : Option (Except Fault α) → List (Event α)
  | none => []
  | some outcome => .started :: (inner ++ [.ended outcome])

/-- What is noted between the beginning and the end of a call, given what is noted while its body
runs. -/
def inside (call : Call α) (inner : List (Event α)) : List (Event α) :=
  call.opening.map .sent ++ (bodyEvents inner call.body ++ call.closing.map .sent)

theorem inside_joined (ended : Except Fault α) (leftOpen : Bool) (inner : List (Event α)) :
    (joined ended leftOpen).inside inner = bodyEvents inner (some ended) := by
  simp [inside, joined]

def events (call : Call α) (inner : List (Event α)) : List (Event α) :=
  .entered call.wasOpen :: (call.inside inner ++ [.left call.outcome call.leftOpen])

theorem sent_mem_events {call : Call α} {sending : Sending} (h : sending ∈ call.sent)
    (inner : List (Event α)) : .sent sending ∈ call.events inner := by
  simp only [events, inside, List.mem_cons, List.mem_append, List.mem_map]
  rcases List.mem_append.1 h with h | h
  · exact Or.inr (Or.inl (Or.inl ⟨sending, h, rfl⟩))
  · exact Or.inr (Or.inl (Or.inr (Or.inr ⟨sending, h, rfl⟩)))

end Call

/-- What a program does: its outcome, what is noted, and the state it leaves the store in. -/
inductive Program.Runs (store : Store σ) :
    Program α → σ → Except Fault α → List (Event α) → σ → Prop
  | done {outcome s} : Runs store (.done outcome) s outcome [] s
  | ask {next s outcome log s'} (h : Runs store (next (store.inTransaction s)) s outcome log s') :
      Runs store (.ask next) s outcome log s'
  | send {statement next s outcome log s'}
      (h : Runs store (next (store.send s statement).1) (store.send s statement).2 outcome log s') :
      Runs store (.send statement next) s outcome
        (.asked :: .sent (store.sending s statement) :: log) s'
  | joined {body next s ended inner s₁ outcome log s'} (hopen : store.inTransaction s = true)
      (hb : Runs store body s ended inner s₁) (h : Runs store (next ended) s₁ outcome log s') :
      Runs store (.transact body next) s outcome
        ((Call.joined ended (store.inTransaction s₁)).events inner ++ log) s'
  | refused {body next s fault s₁ outcome log s'} (hopen : store.inTransaction s = false)
      (hs : store.send s Database.beginStatement = (.error fault, s₁))
      (h : Runs store (next (.error fault)) s₁ outcome log s') :
      Runs store (.transact body next) s outcome
        ((Call.unbegun (store.sending s Database.beginStatement) fault
          (store.inTransaction s₁)).events [] ++ log) s'
  | begun {body next s reply s₁ ended inner s₂ closing result s₃ outcome log s'}
      (hopen : store.inTransaction s = false)
      (hs : store.send s Database.beginStatement = (.ok reply, s₁))
      (hb : Runs store body s₁ ended inner s₂) (hc : store.Concludes ended s₂ closing result s₃)
      (h : Runs store (next result) s₃ outcome log s') :
      Runs store (.transact body next) s outcome
        ((Call.begun (store.sending s Database.beginStatement) ended closing result
          (store.inTransaction s₃)).events inner ++ log) s'

/-! ## Recorded runs -/

/-- From a state of the store the action ends with an outcome, notes a log, and leaves the store in
another state. -/
def Action.Leads (action : Action (σ × List (Event α)) β) (s : σ) (outcome : Except Fault β)
    (log : List (Event α)) (s' : σ) : Prop :=
  ∀ before journal, ∃ journal',
    action.runFrom ⟨(s, before), journal⟩ = (outcome, ⟨(s', before ++ log), journal'⟩)

namespace Action.Leads

variable {s s₁ s₂ : σ} {log log₁ log₂ : List (Event α)} {outcome : Except Fault β}

theorem ofExcept (outcome : Except Fault β) :
    Leads (Action.ofExcept outcome) s outcome ([] : List (Event α)) s := by
  intro before journal
  exact ⟨journal, by rw [runFrom_ofExcept, List.append_nil]⟩

theorem bind {action : Action (σ × List (Event α)) β} {next : β → Action (σ × List (Event α)) γ}
    {b : β} {result : Except Fault γ} (h : action.Leads s (.ok b) log₁ s₁)
    (hn : (next b).Leads s₁ result log₂ s₂) :
    Leads (action >>= next) s result (log₁ ++ log₂) s₂ := by
  intro before journal
  obtain ⟨journal₁, h⟩ := h before journal
  obtain ⟨journal₂, hn⟩ := hn (before ++ log₁) journal₁
  exact ⟨journal₂, by rw [runFrom_bind_ok h, hn, List.append_assoc]⟩

theorem bind_silent {action : Action (σ × List (Event α)) β}
    {next : β → Action (σ × List (Event α)) γ} {b : β} {result : Except Fault γ}
    (h : action.Leads s (.ok b) log s₁) (hn : (next b).Leads s₁ result [] s₂) :
    Leads (action >>= next) s result log s₂ := by
  have hboth := h.bind hn
  rwa [List.append_nil] at hboth

theorem bind_error {action : Action (σ × List (Event α)) β}
    {next : β → Action (σ × List (Event α)) γ} {fault : Fault}
    (h : action.Leads s (.error fault) log s₁) :
    Leads (action >>= next) s (.error fault) log s₁ := by
  intro before journal
  obtain ⟨journal₁, h⟩ := h before journal
  exact ⟨journal₁, runFrom_bind_error h⟩

theorem attempt_bind {action : Action (σ × List (Event α)) β}
    {next : Except Fault β → Action (σ × List (Event α)) γ} {result : Except Fault γ}
    (h : action.Leads s outcome log₁ s₁) (hn : (next outcome).Leads s₁ result log₂ s₂) :
    Leads (action.attempt >>= next) s result (log₁ ++ log₂) s₂ := by
  intro before journal
  obtain ⟨journal₁, h⟩ := h before journal
  obtain ⟨journal₂, hn⟩ := hn (before ++ log₁) journal₁
  exact ⟨journal₂, by rw [runFrom_attempt_bind h, hn, List.append_assoc]⟩

end Action.Leads

namespace Database

variable (db : Database σ) {s s' : σ}

theorem leads_inTransaction {isOpen : Bool} (h : db.store.inTransaction s = isOpen) :
    (db.recording α).inTransaction.Leads s (.ok isOpen) [] s := by
  subst h
  exact fun before journal => ⟨journal, by rw [List.append_nil]; rfl⟩

theorem leads_run {statement : Statement} {outcome : Except Fault Reply}
    (hs : db.store.send s statement = (outcome, s')) :
    ((db.recording α).run statement).Leads s outcome [.sent (db.store.sending s statement)] s' := by
  obtain ⟨rfl, rfl⟩ := Prod.mk.inj hs.symm
  exact fun _ _ => ⟨_, rfl⟩

theorem leads_mark (event : Bool → Event α) (s : σ) :
    (db.mark event).Leads s (.ok ()) [event (db.store.inTransaction s)] s :=
  fun _ _ => ⟨_, rfl⟩

theorem leads_log (entry : Entry) (s : σ) :
    (Action.log entry).Leads s (.ok ()) ([] : List (Event α)) s :=
  fun before _ => ⟨_, by rw [List.append_nil]; rfl⟩

theorem leads_rollback (s : σ) : ∃ sendings rolled s', db.store.RollsBack s sendings rolled s' ∧
    (db.recording α).rollback.Leads s rolled (sendings.map .sent) s' := by
  cases hopen : db.store.inTransaction s with
  | false =>
      exact ⟨[], _, s, .closed hopen, (db.leads_inTransaction hopen).bind (.ofExcept (.ok ()))⟩
  | true =>
      have hflag := db.leads_inTransaction (α := α) hopen
      cases hs : db.store.send s rollbackStatement with
      | mk answer s' =>
          have hrun := db.leads_run (α := α) hs
          cases answer with
          | ok reply =>
              exact ⟨_, _, s', .done hopen hs, hflag.bind (hrun.bind (.ofExcept (.ok ())))⟩
          | error fault => exact ⟨_, _, s', .refused hopen hs, hflag.bind hrun.bind_error⟩

theorem leads_abandon {fault : Fault} {sendings : List Sending} {rolled : Except Fault Unit}
    (h : (db.recording α).rollback.Leads s rolled (sendings.map .sent) s') :
    ((db.recording α).abandon fault : Action _ β).Leads s
      (rolled >>= fun _ => .error (reported fault)) (sendings.map .sent) s' := by
  cases rolled with
  | error refused => exact h.bind_error
  | ok _ =>
      have hreport : ((if fault.isOrdinary = true then do
            Action.log (entry Level.warning "Transaction rolled back"
              [("error", .text fault.kind.name), ("path", .text db.path)])
            throw (.transactionFailed fault "")
          else throw fault) : Action (σ × List (Event α)) β).Leads s'
            (.error (reported fault)) [] s' := by
        unfold reported
        split
        · exact (leads_log _ s').bind (.ofExcept (.error _))
        · exact .ofExcept (.error _)
      exact h.bind_silent hreport

def conclude (db : Database σ) : Except Fault α → Action σ α
  | .ok a => do
    db.commit
    pure a
  | .error fault => db.abandon fault

theorem transaction_eq (body : Action σ α) : db.transaction body = (do
    if ← db.inTransaction then body
    else
      let _ ← db.run beginStatement
      let ended ← body.attempt
      db.conclude ended) := by
  rfl

def settle (db : Database σ) : Except Fault Reply → Action σ Unit
  | .ok _ => pure ()
  | .error fault => do
    if fault.isStoreError then db.rollback
    throw fault

theorem commit_eq : db.commit = (do
    let answer ← (db.run commitStatement).attempt
    db.settle answer) := by
  rfl

theorem leads_settle_refused {fault : Fault} {sendings : List Sending} {rolled : Except Fault Unit}
    (hf : fault.isStoreError = true)
    (h : (db.recording α).rollback.Leads s rolled (sendings.map .sent) s') :
    ((db.recording α).settle (.error fault)).Leads s (rolled >>= fun _ => .error fault)
      (sendings.map .sent) s' := by
  simp only [settle, if_pos hf]
  cases rolled with
  | error refused => exact h.bind_error
  | ok _ => exact h.bind_silent (.ofExcept (.error fault))

theorem leads_settle_broken {fault : Fault} (hf : fault.isStoreError = false) (s : σ) :
    ((db.recording α).settle (.error fault)).Leads s (.error fault) [] s := by
  simp only [settle, hf]
  exact .ofExcept (.error fault)

theorem leads_commit (a : α) (s : σ) : ∃ closing result s',
    db.store.Concludes (.ok a) s closing (result >>= fun _ => .ok a) s' ∧
      (db.recording α).commit.Leads s result (closing.map .sent) s' := by
  rw [commit_eq]
  cases hs : db.store.send s commitStatement with
  | mk answer s₁ =>
      have hrun := db.leads_run (α := α) hs
      cases answer with
      | ok reply =>
          exact ⟨_, .ok (), s₁, .committed hs, hrun.attempt_bind (.ofExcept (.ok ()))⟩
      | error fault =>
          cases hf : fault.isStoreError with
          | false =>
              exact ⟨_, .error fault, s₁, .broken hs hf,
                hrun.attempt_bind (db.leads_settle_broken hf s₁)⟩
          | true =>
              obtain ⟨sendings, rolled, s₂, hr, hrollback⟩ := db.leads_rollback (α := α) s₁
              refine ⟨db.store.sending s commitStatement :: sendings,
                rolled >>= fun _ => .error fault, s₂, ?_,
                hrun.attempt_bind (db.leads_settle_refused hf hrollback)⟩
              cases rolled with
              | error refused => exact .refused hs hf hr
              | ok _ => exact .refused hs hf hr

theorem leads_conclude (ended : Except Fault α) (s : σ) : ∃ closing result s',
    db.store.Concludes ended s closing result s' ∧
      ((db.recording α).conclude ended).Leads s result (closing.map .sent) s' := by
  cases ended with
  | ok a =>
      obtain ⟨closing, result, s', hc, hcommit⟩ := db.leads_commit a s
      refine ⟨closing, _, s', hc, ?_⟩
      cases result with
      | error fault => exact hcommit.bind_error
      | ok _ => exact hcommit.bind_silent (.ofExcept (.ok a))
  | error fault =>
      obtain ⟨sendings, rolled, s', hr, hrollback⟩ := db.leads_rollback (α := α) s
      exact ⟨sendings, _, s', .abandoned hr, db.leads_abandon hrollback⟩

theorem leads_marked {body : Action (σ × List (Event α)) α} {s s' : σ} {ended : Except Fault α}
    {inner : List (Event α)} (h : body.Leads s ended inner s') :
    (db.marked body).Leads s ended (Call.bodyEvents inner (some ended)) s' :=
  (db.leads_mark (fun _ => .started) s).bind
    (h.attempt_bind ((db.leads_mark (fun _ => .ended ended) s').bind (.ofExcept ended)))

theorem leads_joined {body : Action (σ × List (Event α)) α} {s s' : σ} {ended : Except Fault α}
    {log : List (Event α)} (hopen : db.store.inTransaction s = true)
    (h : body.Leads s ended log s') :
    ((db.recording α).transaction body).Leads s ended log s' :=
  (db.leads_inTransaction hopen).bind h

theorem leads_refused {body : Action (σ × List (Event α)) α} {s s' : σ} {fault : Fault}
    (hopen : db.store.inTransaction s = false)
    (hs : db.store.send s beginStatement = (.error fault, s')) :
    ((db.recording α).transaction body).Leads s (.error fault)
      [.sent (db.store.sending s beginStatement)] s' :=
  (db.leads_inTransaction hopen).bind (db.leads_run hs).bind_error

theorem leads_begun {body : Action (σ × List (Event α)) α} {s s₁ s₂ s₃ : σ} {reply : Reply}
    {ended result : Except Fault α} {log log' : List (Event α)}
    (hopen : db.store.inTransaction s = false)
    (hs : db.store.send s beginStatement = (.ok reply, s₁)) (h : body.Leads s₁ ended log s₂)
    (hc : ((db.recording α).conclude ended).Leads s₂ result log' s₃) :
    ((db.recording α).transaction body).Leads s result
      ([.sent (db.store.sending s beginStatement)] ++ (log ++ log')) s₃ := by
  rw [transaction_eq]
  exact (db.leads_inTransaction hopen).bind ((db.leads_run hs).bind (h.attempt_bind hc))

end Database

theorem Program.leads_transact {db : Database σ} {body : Program α}
    {next : Except Fault α → Program α} {s s₁ s' : σ} {call : Call α} {inner log : List (Event α)}
    {outcome : Except Fault α} (hwas : call.wasOpen = db.store.inTransaction s)
    (hleft : call.leftOpen = db.store.inTransaction s₁)
    (h : ((db.recording α).transaction (db.marked (body.recorded db))).Leads s call.outcome
      (call.inside inner) s₁)
    (hn : ((next call.outcome).recorded db).Leads s₁ outcome log s') :
    ((transact body next).recorded db).Leads s outcome (call.events inner ++ log) s' := by
  have hleads : ((transact body next).recorded db).Leads s outcome
      ([.entered (db.store.inTransaction s)] ++ (call.inside inner ++
        ([.left call.outcome (db.store.inTransaction s₁)] ++ log))) s' :=
    (db.leads_mark .entered s).bind
      (h.attempt_bind ((db.leads_mark (.left call.outcome) s₁).bind hn))
  rw [← hwas, ← hleft] at hleads
  simpa [Call.events] using hleads

theorem Program.runs_recorded (db : Database σ) (program : Program α) (s : σ) :
    ∃ outcome log s', program.Runs db.store s outcome log s' ∧
      (program.recorded db).Leads s outcome log s' := by
  -- what comes after an answer starts from the state that the answer left
  induction program generalizing s with
  | done outcome => exact ⟨outcome, [], s, .done, .ofExcept outcome⟩
  | ask next ih =>
      obtain ⟨outcome, log, s', hruns, hleads⟩ := ih (db.store.inTransaction s) s
      exact ⟨outcome, log, s', .ask hruns, (db.leads_inTransaction rfl).bind hleads⟩
  | send statement next ih =>
      obtain ⟨outcome, log, s', hruns, hleads⟩ :=
        ih (db.store.send s statement).1 (db.store.send s statement).2
      exact ⟨outcome, _, s', .send hruns,
        (db.leads_mark (fun _ => .asked) s).bind ((db.leads_run rfl).attempt_bind hleads)⟩
  | transact body next ihb ih =>
      cases hopen : db.store.inTransaction s with
      | true =>
          obtain ⟨ended, inner, s₁, hb, hbody⟩ := ihb s
          obtain ⟨outcome, log, s', hruns, hleads⟩ := ih ended s₁
          refine ⟨outcome, _, s', .joined hopen hb hruns, ?_⟩
          have hcall := db.leads_joined hopen (db.leads_marked hbody)
          rw [← Call.inside_joined ended (db.store.inTransaction s₁)] at hcall
          exact leads_transact hopen.symm rfl hcall hleads
      | false =>
          cases hs : db.store.send s Database.beginStatement with
          | mk answer s₁ =>
              cases answer with
              | error fault =>
                  obtain ⟨outcome, log, s', hruns, hleads⟩ := ih (.error fault) s₁
                  refine ⟨outcome, _, s', .refused hopen hs hruns, ?_⟩
                  exact leads_transact hopen.symm rfl (db.leads_refused hopen hs) hleads
              | ok reply =>
                  obtain ⟨ended, inner, s₂, hb, hbody⟩ := ihb s₁
                  obtain ⟨closing, result, s₃, hc, hconclude⟩ := db.leads_conclude ended s₂
                  obtain ⟨outcome, log, s', hruns, hleads⟩ := ih result s₃
                  refine ⟨outcome, _, s', .begun hopen hs hb hc hruns, ?_⟩
                  have hcall := db.leads_begun hopen hs (db.leads_marked hbody) hconclude
                  exact leads_transact hopen.symm rfl hcall hleads

end TableRecords
