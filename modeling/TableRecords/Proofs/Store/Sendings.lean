import Mathlib
import TableRecords.Proofs.Outcome
import TableRecords.Proofs.Store.Runs
import TableRecords.Store.Playback

/-! # What an action sends

The statements that an action sends, each with its answer, what comes of the action, and the state
it leaves the store in. An action is followed from its parts, so what holds whatever the store
answers is put together from what holds of the parts.
-/

namespace TableRecords

variable {σ β γ : Type}

/-- Statements that were sent one after another, each in the state that the one before it left. -/
inductive Store.Chain (store : Store σ) : σ → List Sending → σ → Prop
  | nil {s} : Chain store s [] s
  | cons {s statement rest s'} (h : Chain store (store.send s statement).2 rest s') :
      Chain store s (store.sending s statement :: rest) s'

namespace Store

variable {store : Store σ} {s s₁ s₂ : σ} {sent more : List Sending}

theorem Chain.single (store : Store σ) (s : σ) (statement : Statement) :
    store.Chain s [store.sending s statement] (store.send s statement).2 := .cons .nil

theorem Chain.append (h : store.Chain s sent s₁) (hm : store.Chain s₁ more s₂) :
    store.Chain s (sent ++ more) s₂ := by
  induction h with
  | nil => exact hm
  | cons _ ih => exact .cons (ih hm)

theorem Chain.eq_of_nil (h : store.Chain s [] s₁) : s₁ = s := by
  cases h
  rfl

theorem Chain.of_send {statement : Statement} {answer : Except Fault Reply}
    (h : store.send s statement = (answer, s₁)) :
    store.Chain s [store.sending s statement] s₁ := by
  have hchain := Chain.single store s statement
  rwa [h] at hchain

theorem RollsBack.chain {rolled : Except Fault Unit} (h : store.RollsBack s sent rolled s₁) :
    store.Chain s sent s₁ := by
  cases h with
  | closed _ => exact .nil
  | done _ hs => exact .of_send hs
  | refused _ hs => exact .of_send hs

theorem Concludes.chain {ended result : Except Fault β}
    (h : store.Concludes ended s sent result s₁) : store.Chain s sent s₁ := by
  cases h with
  | committed hs => exact .of_send hs
  | refused hs _ hr => exact (Chain.of_send hs).append hr.chain
  | broken hs _ => exact .of_send hs
  | abandoned hr => exact hr.chain

/-- Whether a fault is the answer to one of the statements. -/
def Faulted (sent : List Sending) (fault : Fault) : Prop :=
  ∃ sending ∈ sent, sending.outcome = .error fault

theorem faulted_of_send {statement : Statement} {fault : Fault}
    (h : store.send s statement = (.error fault, s₁)) (rest : List Sending) :
    Faulted (store.sending s statement :: rest) fault :=
  ⟨_, List.mem_cons_self, (sending_outcome h).1⟩

theorem RollsBack.faulted {fault : Fault} (h : store.RollsBack s sent (.error fault) s₁) :
    Faulted sent fault := by
  cases h with
  | refused _ hs => exact faulted_of_send hs []

theorem Concludes.faulted {ended : Except Fault β} {fault : Fault}
    (h : store.Concludes ended s sent (.error fault) s₁) :
    Faulted sent fault ∨ ∃ cause, ended = .error cause ∧ fault = Database.reported cause := by
  generalize hresult : (Except.error fault : Except Fault β) = result at h
  cases h with
  | committed _ => cases hresult
  | @refused _ _ _ _ _ _ rolled hs _ hr =>
      -- a rollback that fails takes the place of the fault it was sent for
      cases rolled with
      | error refused =>
          obtain ⟨sending, hm, ho⟩ := hr.faulted
          cases hresult
          exact Or.inl ⟨sending, List.mem_cons_of_mem _ hm, ho⟩
      | ok _ =>
          cases hresult
          exact Or.inl (faulted_of_send hs _)
  | broken hs _ =>
      cases hresult
      exact Or.inl (faulted_of_send hs [])
  | @abandoned cause _ _ _ rolled hr =>
      cases rolled with
      | error refused =>
          cases hresult
          exact Or.inl hr.faulted
      | ok _ =>
          cases hresult
          exact Or.inr ⟨cause, rfl, rfl⟩

end Store

theorem Action.Leads.plain {noted : Action (σ × List (Event β)) γ} {plain : Action σ γ}
    {s s' : σ} {outcome : Except Fault γ} {log : List (Event β)}
    (h : noted.Leads s outcome log s') (hr : noted.Refines plain) (journal : List Entry) :
    ∃ journal', plain.runFrom ⟨s, journal⟩ = (outcome, ⟨s', journal'⟩) := by
  obtain ⟨journal', h⟩ := h [] journal
  have hrun := hr ⟨(s, []), journal⟩
  rw [h] at hrun
  exact ⟨journal', hrun⟩

/-- From a state of the store the action has an outcome and leaves the store in another state, and
these are the statements it sends. They are noted when the same action is run on the store that
notes what it is sent. -/
structure Database.Sends (db : Database σ) (noted : Action (σ × List (Event Unit)) β)
    (plain : Action σ β) (s : σ) (sent : List Sending) (outcome : Except Fault β) (s' : σ) :
    Prop where
  noted : noted.Leads s outcome (sent.map .sent) s'
  plain : ∀ journal, ∃ journal', plain.runFrom ⟨s, journal⟩ = (outcome, ⟨s', journal'⟩)
  chain : db.store.Chain s sent s'

namespace Database

variable {db : Database σ} {noted : Action (σ × List (Event Unit)) β} {plain : Action σ β}
  {next : β → Action (σ × List (Event Unit)) γ} {next' : β → Action σ γ} {s s₁ s₂ : σ}
  {sent more : List Sending} {outcome : Except Fault β} {result : Except Fault γ}

theorem Sends.of_refines (h : noted.Leads s outcome (sent.map .sent) s₁) (hr : noted.Refines plain)
    (hc : db.store.Chain s sent s₁) : db.Sends noted plain s sent outcome s₁ :=
  ⟨h, h.plain hr, hc⟩

theorem Sends.ofExcept (outcome : Except Fault β) (s : σ) :
    db.Sends (Action.ofExcept outcome) (Action.ofExcept outcome) s [] outcome s :=
  .of_refines (.ofExcept outcome) (.ofExcept outcome) .nil

theorem Sends.log (entry : Entry) (s : σ) :
    db.Sends (Action.log entry) (Action.log entry) s [] (.ok ()) s :=
  .of_refines (leads_log entry s) (.log entry) .nil

theorem sends_inTransaction (db : Database σ) (s : σ) :
    db.Sends (db.recording Unit).inTransaction db.inTransaction s []
      (.ok (db.store.inTransaction s)) s :=
  .of_refines (db.leads_inTransaction rfl) db.refines_inTransaction .nil

theorem sends_run (db : Database σ) (statement : Statement) (s : σ) :
    db.Sends ((db.recording Unit).run statement) (db.run statement) s
      [db.store.sending s statement] (db.store.send s statement).1
      (db.store.send s statement).2 :=
  .of_refines (db.leads_run rfl) (db.refines_run statement) (.single _ _ _)

theorem Sends.bind {b : β} (h : db.Sends noted plain s sent (.ok b) s₁)
    (hn : db.Sends (next b) (next' b) s₁ more result s₂) :
    db.Sends (noted >>= next) (plain >>= next') s (sent ++ more) result s₂ where
  noted := by
    rw [List.map_append]
    exact h.noted.bind hn.noted
  plain journal := by
    obtain ⟨journal₁, h⟩ := h.plain journal
    obtain ⟨journal₂, hn⟩ := hn.plain journal₁
    exact ⟨journal₂, (Action.runFrom_bind_ok h).trans hn⟩
  chain := h.chain.append hn.chain

theorem Sends.bind_silent {b : β} (h : db.Sends noted plain s sent (.ok b) s₁)
    (hn : db.Sends (next b) (next' b) s₁ [] result s₂) :
    db.Sends (noted >>= next) (plain >>= next') s sent result s₂ := by
  have hboth := h.bind hn
  rwa [List.append_nil] at hboth

theorem Sends.bind_error {fault : Fault} (h : db.Sends noted plain s sent (.error fault) s₁) :
    db.Sends (noted >>= next) (plain >>= next') s sent (.error fault) s₁ where
  noted := h.noted.bind_error
  plain journal := by
    obtain ⟨journal₁, h⟩ := h.plain journal
    exact ⟨journal₁, Action.runFrom_bind_error h⟩
  chain := h.chain

theorem Sends.attempt (h : db.Sends noted plain s sent outcome s₁) :
    db.Sends noted.attempt plain.attempt s sent (.ok outcome) s₁ where
  noted before journal := by
    obtain ⟨journal₁, h⟩ := h.noted before journal
    exact ⟨journal₁, by rw [Action.runFrom_attempt, h]⟩
  plain journal := by
    obtain ⟨journal₁, h⟩ := h.plain journal
    exact ⟨journal₁, by rw [Action.runFrom_attempt, h]⟩
  chain := h.chain

theorem refines_conclude (ended : Except Fault β) :
    Action.Refines ((db.recording β).conclude ended) (db.conclude ended) := by
  cases ended with
  | ok b => exact db.refines_commit.bind fun _ => .pure _
  | error fault => exact db.refines_abandon fault

theorem sends_conclude (db : Database σ) (ended : Except Fault Unit) (s : σ) : ∃ closing result s',
    db.store.Concludes ended s closing result s' ∧
      db.Sends ((db.recording Unit).conclude ended) (db.conclude ended) s closing result s' := by
  obtain ⟨closing, result, s', hc, hleads⟩ := db.leads_conclude ended s
  exact ⟨closing, result, s', hc, .of_refines hleads (refines_conclude ended) hc.chain⟩

theorem sends_query (db : Database σ) {statement : Statement} {reply : Reply}
    (h : (db.store.send s statement).1 = .ok reply) :
    db.Sends ((db.recording Unit).query statement) (db.query statement) s
      [db.store.sending s statement] (.ok reply.rows) (db.store.send s statement).2 := by
  have hrun := db.sends_run statement s
  rw [h] at hrun
  exact hrun.bind (.ofExcept (.ok reply.rows) _)

/-- A run is determined by where it starts. -/
theorem Sends.unique {outcome' : Except Fault β} (h : db.Sends noted plain s sent outcome s₁)
    (h' : db.Sends noted plain s more outcome' s₂) :
    sent = more ∧ outcome = outcome' ∧ s₁ = s₂ := by
  obtain ⟨_, h⟩ := h.noted [] []
  obtain ⟨_, h'⟩ := h'.noted [] []
  rw [h] at h'
  obtain ⟨ho, hs⟩ := Prod.mk.inj h'
  obtain ⟨hstate, -⟩ := Session.mk.inj hs
  obtain ⟨hs, hlog⟩ := Prod.mk.inj hstate
  rw [List.nil_append, List.nil_append] at hlog
  have hinjective : Function.Injective (Event.sent : Sending → Event Unit) :=
    fun _ _ h => Event.sent.inj h
  exact ⟨hinjective.list_map hlog, ho, hs⟩

section Transactions

variable {noted : Action (σ × List (Event Unit)) Unit} {plain : Action σ Unit}
  {ended : Except Fault Unit}

theorem Sends.joined (hopen : db.store.inTransaction s = true)
    (h : db.Sends noted plain s sent ended s₁) :
    db.Sends ((db.recording Unit).transaction noted) (db.transaction plain) s sent ended s₁ := by
  have hflag := db.sends_inTransaction s
  rw [hopen] at hflag
  exact hflag.bind h

theorem Sends.unbegun {fault : Fault} (hopen : db.store.inTransaction s = false)
    (hs : db.store.send s beginStatement = (.error fault, s₁)) :
    db.Sends ((db.recording Unit).transaction noted) (db.transaction plain) s
      [db.store.sending s beginStatement] (.error fault) s₁ := by
  have hflag := db.sends_inTransaction s
  have hrun := db.sends_run beginStatement s
  rw [hopen] at hflag
  rw [hs] at hrun
  exact hflag.bind hrun.bind_error

/-- What is begun is concluded once the body has ended. -/
theorem Sends.begun {reply : Reply} (hopen : db.store.inTransaction s = false)
    (hs : db.store.send s beginStatement = (.ok reply, s₁))
    (h : db.Sends noted plain s₁ sent ended s₂) : ∃ closing result s₃,
      db.store.Concludes ended s₂ closing result s₃ ∧
      db.Sends ((db.recording Unit).transaction noted) (db.transaction plain) s
        (db.store.sending s beginStatement :: (sent ++ closing)) result s₃ := by
  have hflag := db.sends_inTransaction s
  have hrun := db.sends_run beginStatement s
  rw [hopen] at hflag
  rw [hs] at hrun
  obtain ⟨closing, result, s₃, hc, hconclude⟩ := db.sends_conclude ended s₂
  refine ⟨closing, result, s₃, hc, ?_⟩
  rw [transaction_eq, transaction_eq]
  exact hflag.bind (hrun.bind (h.attempt.bind hconclude))

end Transactions

/-! ## What holds of all runs -/

/-- Whatever state the store is in, what the action sends and what comes of it satisfy a
condition. -/
def Always (db : Database σ) (noted : Action (σ × List (Event Unit)) β) (plain : Action σ β)
    (P : List Sending → Except Fault β → Prop) : Prop :=
  ∀ s, ∃ sent outcome s', db.Sends noted plain s sent outcome s' ∧ P sent outcome

namespace Always

variable {P P' : List Sending → Except Fault β → Prop} {Q : List Sending → Except Fault γ → Prop}

theorem imp (h : db.Always noted plain P) (hp : ∀ sent outcome, P sent outcome → P' sent outcome) :
    db.Always noted plain P' := by
  intro s
  obtain ⟨sent, outcome, s', hs, hP⟩ := h s
  exact ⟨sent, outcome, s', hs, hp sent outcome hP⟩

theorem of_sends (h : db.Always noted plain P) (hs : db.Sends noted plain s sent outcome s₁) :
    P sent outcome := by
  obtain ⟨_, _, _, h, hP⟩ := h s
  obtain ⟨rfl, rfl, -⟩ := hs.unique h
  exact hP

theorem exists_sends (h : db.Always noted plain P)
    (hrun : (plain.runFrom ⟨s, []⟩).1 = outcome) :
    ∃ sent s', db.Sends noted plain s sent outcome s' := by
  obtain ⟨sent, result, s', hs, -⟩ := h s
  obtain ⟨_, hplain⟩ := hs.plain []
  rw [hplain] at hrun
  cases hrun
  exact ⟨sent, s', hs⟩

theorem ofExcept (h : P [] outcome) :
    db.Always (Action.ofExcept outcome) (Action.ofExcept outcome) P :=
  fun s => ⟨[], outcome, s, .ofExcept outcome s, h⟩

theorem log {P : List Sending → Except Fault Unit → Prop} (entry : Entry) (h : P [] (.ok ())) :
    db.Always (Action.log entry) (Action.log entry) P :=
  fun s => ⟨[], .ok (), s, .log entry s, h⟩

theorem run {P : List Sending → Except Fault Reply → Prop} (statement : Statement)
    (h : ∀ sending, sending.statement = statement → P [sending] sending.outcome) :
    db.Always ((db.recording Unit).run statement) (db.run statement) P :=
  fun s => ⟨_, _, _, db.sends_run statement s, h (db.store.sending s statement) rfl⟩

theorem bind (h : db.Always noted plain P) (error : ∀ sent fault, P sent (.error fault) →
      Q sent (.error fault))
    (ok : ∀ sent b, P sent (.ok b) →
      db.Always (next b) (next' b) fun more result => Q (sent ++ more) result) :
    db.Always (noted >>= next) (plain >>= next') Q := by
  intro s
  obtain ⟨sent, outcome, s₁, hs, hP⟩ := h s
  cases outcome with
  | error fault => exact ⟨sent, _, s₁, hs.bind_error, error sent fault hP⟩
  | ok b =>
      obtain ⟨more, result, s₂, hn, hQ⟩ := ok sent b hP s₁
      exact ⟨sent ++ more, result, s₂, hs.bind hn, hQ⟩

theorem ofExcept_bind (error : ∀ fault, outcome = .error fault → Q [] (.error fault))
    (ok : ∀ b, outcome = .ok b → db.Always (next b) (next' b) Q) :
    db.Always (Action.ofExcept outcome >>= next) (Action.ofExcept outcome >>= next') Q := by
  refine bind (P := fun sent result => sent = [] ∧ result = outcome) (ofExcept ⟨rfl, rfl⟩) ?_ ?_
  · rintro _ fault ⟨rfl, h⟩
    exact error fault h.symm
  · rintro _ b ⟨rfl, h⟩
    exact ok b h.symm

theorem ok_bind {b : β} (h : outcome = .ok b) (hn : db.Always (next b) (next' b) Q) :
    db.Always (Action.ofExcept outcome >>= next) (Action.ofExcept outcome >>= next') Q := by
  refine ofExcept_bind (fun fault hf => ?_) fun c hc => ?_
  · rw [h] at hf
    cases hf
  · rw [h] at hc
    cases hc
    exact hn

theorem log_bind {next : Unit → Action (σ × List (Event Unit)) γ} {next' : Unit → Action σ γ}
    (entry : Entry) (h : db.Always (next ()) (next' ()) Q) :
    db.Always (Action.log entry >>= next) (Action.log entry >>= next') Q := by
  refine bind (P := fun sent result => sent = [] ∧ result = .ok ()) (log entry ⟨rfl, rfl⟩) ?_ ?_
  · rintro _ _ ⟨-, h⟩
    cases h
  · rintro _ _ ⟨rfl, -⟩
    exact h

theorem map {f : β → γ} (h : db.Always noted plain fun sent outcome => Q sent (f <$> outcome)) :
    db.Always (noted >>= fun b => pure (f b)) (plain >>= fun b => pure (f b)) Q := by
  refine bind h (fun sent fault hQ => hQ) fun sent b hQ => ofExcept ?_
  rw [List.append_nil]
  exact hQ

/-- A transaction joins the one that is open, or is refused, or is begun and concluded after its
body. -/
theorem transaction {noted : Action (σ × List (Event Unit)) Unit} {plain : Action σ Unit}
    {P Q : List Sending → Except Fault Unit → Prop} (h : db.Always noted plain P)
    (joined : ∀ sent ended, P sent ended → Q sent ended)
    (refused : ∀ sending fault, sending.statement = beginStatement →
      sending.outcome = .error fault → Q [sending] (.error fault))
    (begun : ∀ opening sent ended s closing result s', opening.statement = beginStatement →
      P sent ended → db.store.Concludes ended s closing result s' →
      Q (opening :: (sent ++ closing)) result) :
    db.Always ((db.recording Unit).transaction noted) (db.transaction plain) Q := by
  intro s
  cases hopen : db.store.inTransaction s with
  | true =>
      obtain ⟨sent, ended, s', hbody, hP⟩ := h s
      exact ⟨sent, ended, s', hbody.joined hopen, joined sent ended hP⟩
  | false =>
      cases hs : db.store.send s beginStatement with
      | mk answer s₁ =>
          cases answer with
          | error fault =>
              exact ⟨_, _, s₁, .unbegun hopen hs,
                refused _ fault rfl (Store.sending_outcome hs).1⟩
          | ok reply =>
              obtain ⟨sent, ended, s₂, hbody, hP⟩ := h s₁
              obtain ⟨closing, result, s₃, hc, hbegun⟩ := hbody.begun hopen hs
              exact ⟨_, result, s₃, hbegun, begun _ sent ended s₂ closing result s₃ rfl hP hc⟩

end Always

/-- An action that sends one statement and makes something of the reply. -/
def Asks (db : Database σ) (noted : Action (σ × List (Event Unit)) β) (plain : Action σ β)
    (statement : Statement) (f : Reply → β) : Prop :=
  db.Always noted plain fun sent outcome => ∃ sending, sent = [sending] ∧
    sending.statement = statement ∧ outcome = f <$> sending.outcome

theorem asks_run (db : Database σ) (statement : Statement) :
    db.Asks ((db.recording Unit).run statement) (db.run statement) statement id :=
  Always.run statement fun sending hs => ⟨sending, rfl, hs, (id_map _).symm⟩

theorem Asks.map {statement : Statement} {f : Reply → β} (h : db.Asks noted plain statement f)
    (g : β → γ) : db.Asks (noted >>= fun b => pure (g b)) (plain >>= fun b => pure (g b)) statement
      (g ∘ f) := by
  refine Always.map (h.imp ?_)
  rintro sent _ ⟨sending, hsent, hs, rfl⟩
  exact ⟨sending, hsent, hs, (comp_map f g _).symm⟩

theorem asks_execute (db : Database σ) (statement : Statement) :
    db.Asks ((db.recording Unit).execute statement) (db.execute statement) statement
      fun reply => max reply.affected 0 :=
  (db.asks_run statement).map _

theorem asks_query (db : Database σ) (statement : Statement) :
    db.Asks ((db.recording Unit).query statement) (db.query statement) statement (·.rows) :=
  (db.asks_run statement).map _

theorem asks_queryRow (db : Database σ) (statement : Statement) :
    db.Asks ((db.recording Unit).queryRow statement) (db.queryRow statement) statement
      (·.rows.head?) :=
  (db.asks_run statement).map _

theorem Asks.bind {statement : Statement} {f : Reply → β} (h : db.Asks noted plain statement f)
    {Q : List Sending → Except Fault γ → Prop}
    (error : ∀ sending fault, sending.statement = statement → sending.outcome = .error fault →
      Q [sending] (.error fault))
    (ok : ∀ sending reply, sending.statement = statement → sending.outcome = .ok reply →
      db.Always (next (f reply)) (next' (f reply)) fun more result => Q (sending :: more) result) :
    db.Always (noted >>= next) (plain >>= next') Q := by
  refine Always.bind h ?_ ?_
  · rintro _ fault ⟨sending, rfl, hs, ho⟩
    exact error sending fault hs (Outcome.map_eq_error.1 ho.symm)
  · rintro _ b ⟨sending, rfl, hs, ho⟩
    obtain ⟨reply, hanswer, rfl⟩ := Outcome.map_eq_ok.1 ho.symm
    exact ok sending reply hs hanswer

/-- Whatever the store answers, if the action ends with a value, the value and what was sent for it
satisfy a condition. -/
def Yields (db : Database σ) (noted : Action (σ × List (Event Unit)) β) (plain : Action σ β)
    (P : List Sending → β → Prop) : Prop :=
  db.Always noted plain fun sent outcome => ∀ b, outcome = .ok b → P sent b

theorem Always.yields {P : List Sending → Except Fault β → Prop}
    (h : db.Always noted plain P) : db.Yields noted plain fun _ _ => True :=
  h.imp fun _ _ _ _ _ => trivial

theorem Asks.yields {statement : Statement} {f : Reply → β}
    (h : db.Asks noted plain statement f) : db.Yields noted plain fun sent b =>
      ∃ sending reply, sent = [sending] ∧ sending.statement = statement ∧
        sending.outcome = .ok reply ∧ b = f reply := by
  refine h.imp ?_
  rintro _ _ ⟨sending, rfl, hs, rfl⟩ b hb
  obtain ⟨reply, hanswer, hreply⟩ := Outcome.map_eq_ok.1 hb
  exact ⟨sending, reply, rfl, hs, hanswer, hreply.symm⟩

namespace Yields

variable {P : List Sending → β → Prop} {Q : List Sending → γ → Prop}

theorem ofExcept (h : ∀ b, outcome = .ok b → P [] b) :
    db.Yields (Action.ofExcept outcome) (Action.ofExcept outcome) P := Always.ofExcept h

theorem pure {b : β} (h : P [] b) : db.Yields (Pure.pure b) (Pure.pure b) P := by
  refine ofExcept fun c hc => ?_
  cases hc
  exact h

theorem bind (h : db.Yields noted plain P) (hn : ∀ sent b, P sent b →
      db.Yields (next b) (next' b) fun more c => Q (sent ++ more) c) :
    db.Yields (noted >>= next) (plain >>= next') Q := by
  refine Always.bind h (fun sent fault _ c hc => ?_) fun sent b hP => hn sent b (hP b rfl)
  cases hc

theorem ofExcept_bind (h : ∀ b, outcome = .ok b → db.Yields (next b) (next' b) Q) :
    db.Yields (Action.ofExcept outcome >>= next) (Action.ofExcept outcome >>= next') Q := by
  refine Always.ofExcept_bind (fun fault _ c hc => ?_) h
  cases hc

theorem log_bind {next : Unit → Action (σ × List (Event Unit)) γ} {next' : Unit → Action σ γ}
    (entry : Entry) (h : db.Yields (next ()) (next' ()) Q) :
    db.Yields (Action.log entry >>= next) (Action.log entry >>= next') Q :=
  Always.log_bind entry h

end Yields

end Database

/-! ## Prepared replies -/

namespace Playback

theorem outcome_of_chain {p p' : Playback} {sent : List Sending} (h : store.Chain p sent p')
    (hopen : p.isOpen = true) : ∀ sending ∈ sent, ∃ prepared ∈ default :: p.replies,
      sending.outcome = prepared.outcome := by
  induction h with
  | nil => simp
  | @cons p statement rest p' _ ih =>
      have hsend : store.send p statement = send p statement := rfl
      intro sending hm
      rcases List.mem_cons.1 hm with rfl | hm
      · refine ⟨p.replies.headD default, ?_, ?_⟩
        · cases p.replies <;> simp
        · simp [Store.sending, hsend, send, hopen]
      · rw [hsend] at ih
        simp only [send, hopen, if_true] at ih
        obtain ⟨prepared, hp, ho⟩ := ih trivial sending hm
        refine ⟨prepared, ?_, ho⟩
        rcases List.mem_cons.1 hp with rfl | hp
        · exact List.mem_cons_self
        · exact List.mem_cons_of_mem _ (List.mem_of_mem_tail hp)

theorem unrefused_of_chain {p : Playback} {sent : List Sending} (h : store.Chain {} sent p) :
    ∀ sending ∈ sent, ∀ fault, sending.outcome ≠ .error fault := by
  intro sending hm fault hf
  obtain ⟨prepared, hp, ho⟩ := outcome_of_chain h rfl sending hm
  rw [List.mem_singleton.1 hp, hf] at ho
  cases ho

theorem sent_of_chain {p p' : Playback} {sent : List Sending} (h : store.Chain p sent p')
    (hopen : p.isOpen = true) : p'.sent = p.sent ++ sent.map (·.statement) := by
  induction h with
  | nil => simp
  | @cons p statement rest p' _ ih =>
      have hsend : store.send p statement = send p statement := rfl
      rw [hsend] at ih
      simp only [send, hopen, if_true] at ih
      rw [ih trivial, List.append_assoc]
      rfl

/-- A database whose store plays back replies, with the settings that hold by default. -/
def database : Database Playback where
  store := store
  settings := Settings.load [] []

def answering (row : Fields) : Playback := { replies := [{ outcome := .ok { rows := [row] } }] }

theorem eq_of_answering {row found : Fields} {p : Playback} {sent : List Sending}
    (h : store.Chain (answering row) sent p) {sending : Sending} (hm : sending ∈ sent)
    {reply : Reply} (ho : sending.outcome = .ok reply) (hf : found ∈ reply.rows) :
    found = row := by
  obtain ⟨prepared, hp, hprepared⟩ := outcome_of_chain h rfl sending hm
  rw [ho] at hprepared
  rcases List.mem_cons.1 hp with rfl | hp
  · cases hprepared
    cases hf
  · cases List.mem_singleton.1 hp
    cases hprepared
    exact List.mem_singleton.1 hf

end Playback

end TableRecords
