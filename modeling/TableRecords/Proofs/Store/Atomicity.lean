import Mathlib
import TableRecords.Proofs.Store.Runs

/-! # All or nothing

A transaction that is not inside of another either returns what its body returned, and then
everything that succeeded in the body lasts, or it fails for a reason it names, and then the store
holds what it held before.
-/

namespace TableRecords

variable {σ τ α : Type}

/-- What is assumed of a store: a refused statement changes nothing, an ordinary one that succeeds
has its effect on the contents, and a transaction has the contents it began with to return to. -/
structure Store.Atomic (store : Store σ) (ordinary : Statement → Prop) (contents : σ → τ)
    (saved : σ → Option τ) (effect : τ → Statement → τ) : Prop where
  isOpen : ∀ s, store.inTransaction s = (saved s).isSome
  refused : ∀ s statement fault s', store.send s statement = (.error fault, s') →
    fault.isStoreError = true ∧ contents s' = contents s ∧ saved s' = saved s
  ordinary : ∀ s statement reply s', ordinary statement →
    store.send s statement = (.ok reply, s') →
      contents s' = effect (contents s) statement ∧ saved s' = saved s
  begun : ∀ s reply s', saved s = none →
    store.send s Database.beginStatement = (.ok reply, s') →
      contents s' = contents s ∧ saved s' = some (contents s)
  committed : ∀ s reply s' before, saved s = some before →
    store.send s Database.commitStatement = (.ok reply, s') →
      contents s' = contents s ∧ saved s' = none
  rolledBack : ∀ s reply s' before, saved s = some before →
    store.send s Database.rollbackStatement = (.ok reply, s') →
      contents s' = before ∧ saved s' = none

/-- Whether all statements a program may send itself satisfy a property. -/
def Program.Sends (ordinary : Statement → Prop) : Program α → Prop
  | done _ => True
  | ask next => ∀ isOpen, (next isOpen).Sends ordinary
  | send statement next => ordinary statement ∧ ∀ outcome, (next outcome).Sends ordinary
  | transact body next => body.Sends ordinary ∧ ∀ outcome, (next outcome).Sends ordinary

def Event.success? : Event α → Option Statement
  | .sent sending =>
    match sending.outcome with
    | .ok _ => some sending.statement
    | .error _ => none
  | _ => none

def successes (log : List (Event α)) : List Statement := log.filterMap Event.success?

theorem successes_append (log log' : List (Event α)) :
    successes (log ++ log') = successes log ++ successes log' := List.filterMap_append

theorem successes_ok {sending : Sending} {reply : Reply} (h : sending.outcome = .ok reply)
    (log : List (Event α)) :
    successes (.asked :: .sent sending :: log) = sending.statement :: successes log := by
  have hs : (Event.sent sending : Event α).success? = some sending.statement := by
    simp [Event.success?, h]
  exact List.filterMap_cons_some hs

theorem successes_error {sending : Sending} {fault : Fault} (h : sending.outcome = .error fault)
    (log : List (Event α)) : successes (.asked :: .sent sending :: log) = successes log := by
  have hs : (Event.sent sending : Event α).success? = none := by simp [Event.success?, h]
  exact List.filterMap_cons_none hs

theorem successes_joined (ended : Except Fault α) (leftOpen : Bool) (inner : List (Event α)) :
    successes ((Call.joined ended leftOpen).events inner) = successes inner := by
  have hended : successes [.ended ended] = ([] : List Statement) := rfl
  have hleft : successes [.left ended leftOpen] = ([] : List Statement) := rfl
  change successes (inner ++ [.ended ended] ++ [] ++ [.left ended leftOpen]) = _
  simp only [successes_append, hended, hleft, List.append_nil]

namespace Call

/-- The call itself sent the statement, and it succeeded. -/
def Succeeded (call : Call α) (statement : Statement) : Prop :=
  ∃ sending ∈ call.sent, sending.statement = statement ∧
    ∃ reply, sending.outcome = .ok reply

def Refused (call : Call α) (statement : Statement) (fault : Fault) : Prop :=
  ∃ sending ∈ call.sent, sending.statement = statement ∧
    sending.outcome = .error fault

inductive Explains (call : Call α) : Fault → Prop
  | unbegun {fault} (h : call.Refused Database.beginStatement fault) : Explains call fault
  | failed {cause} (h : call.body = some (.error cause)) (ordinary : cause.isOrdinary = true) :
      Explains call (.transactionFailed cause "")
  | aborted {cause} (h : call.body = some (.error cause)) (order : cause.isOrdinary = false) :
      Explains call cause
  | uncommitted {a fault} (h : call.body = some (.ok a))
      (hc : call.Refused Database.commitStatement fault) : Explains call fault

/-- What the contents of the store before a call and after it have to do with its outcome, given
what is noted while its body runs. -/
structure AllOrNothing (call : Call α) (inner : List (Event α)) (effect : τ → Statement → τ)
    (before after : τ) : Prop where
  returns : ∀ a, call.outcome = .ok a ↔ call.Succeeded Database.beginStatement ∧
    call.body = some (.ok a) ∧ call.Succeeded Database.commitStatement
  all : ∀ a, call.outcome = .ok a → after = (successes inner).foldl effect before
  nothing : ∀ fault, call.outcome = .error fault → after = before
  explains : ∀ fault, call.outcome = .error fault → call.Explains fault

end Call

section Runs

variable {store : Store σ} {ordinary : Statement → Prop} {contents : σ → τ}
  {saved : σ → Option τ} {effect : τ → Statement → τ}

/-- Inside of a transaction a program changes the contents by what succeeds, and nothing else. -/
theorem Program.Runs.inside (atomic : store.Atomic ordinary contents saved effect)
    {program : Program α} {s s' : σ} {outcome : Except Fault α} {log : List (Event α)}
    (h : program.Runs store s outcome log s') (only : program.Sends ordinary) {before : τ}
    (hs : saved s = some before) :
    saved s' = some before ∧ contents s' = (successes log).foldl effect (contents s) := by
  induction h with
  | done => exact ⟨hs, rfl⟩
  | ask _ ih => exact ih (only _) hs
  | @send statement next s outcome log s' _ ih =>
      cases hsend : store.send s statement with
      | mk answer s₁ =>
          rw [hsend] at ih
          cases answer with
          | ok reply =>
              obtain ⟨hc, hk⟩ := atomic.ordinary _ _ _ _ only.1 hsend
              obtain ⟨hsaved, hcontents⟩ := ih (only.2 _) (hk.trans hs)
              refine ⟨hsaved, ?_⟩
              have hok : (store.sending s statement).outcome = .ok reply := congrArg Prod.fst hsend
              rw [hcontents, hc, successes_ok hok]
              rfl
          | error fault =>
              obtain ⟨-, hc, hk⟩ := atomic.refused _ _ _ _ hsend
              obtain ⟨hsaved, hcontents⟩ := ih (only.2 _) (hk.trans hs)
              refine ⟨hsaved, ?_⟩
              have herror : (store.sending s statement).outcome = .error fault :=
                congrArg Prod.fst hsend
              rw [hcontents, hc, successes_error herror]
  | joined _ _ _ ihb ih =>
      obtain ⟨hbody, hinner⟩ := ihb only.1 hs
      obtain ⟨hsaved, hcontents⟩ := ih (only.2 _) hbody
      refine ⟨hsaved, ?_⟩
      rw [hcontents, hinner, successes_append, successes_joined, List.foldl_append]
  -- what is saved stays saved, so no transaction inside of this one is begun
  | refused hopen _ _ _ =>
      rw [atomic.isOpen, hs] at hopen
      cases hopen
  | begun hopen _ _ _ _ _ _ =>
      rw [atomic.isOpen, hs] at hopen
      cases hopen

theorem Store.RollsBack.returns (atomic : store.Atomic ordinary contents saved effect) {s s' : σ}
    {sendings : List Sending} {rolled : Except Fault Unit}
    (h : store.RollsBack s sendings rolled s')
    (accepted : ∀ sending ∈ sendings, ∀ fault, sending.outcome ≠ .error fault) {before : τ}
    (hs : saved s = some before) :
    rolled = .ok () ∧ contents s' = before ∧ saved s' = none := by
  cases h with
  | closed hclosed =>
      rw [atomic.isOpen, hs] at hclosed
      cases hclosed
  | done _ hsend => exact ⟨rfl, atomic.rolledBack _ _ _ _ hs hsend⟩
  | refused _ hsend =>
      exact absurd (sending_outcome hsend).1 (accepted _ (List.mem_singleton_self _) _)

theorem Call.allOrNothing_of_error {call : Call α} {inner : List (Event α)} {fault : Fault}
    {before after : τ} (houtcome : call.outcome = .error fault)
    (hbody : ∀ a, call.body = some (.ok a) → ¬call.Succeeded Database.commitStatement)
    (hsame : after = before) (hexplains : call.Explains fault) :
    call.AllOrNothing inner effect before after where
  returns a := by
    constructor
    · intro h
      rw [houtcome] at h
      cases h
    · rintro ⟨-, hb, hcommit⟩
      exact absurd hcommit (hbody a hb)
  all a h := by
    rw [houtcome] at h
    cases h
  nothing _ _ := hsame
  explains other h := by
    rw [houtcome] at h
    rw [← Except.error.inj h]
    exact hexplains

theorem allOrNothing_unbegun (atomic : store.Atomic ordinary contents saved effect) {s s' : σ}
    {fault : Fault} (leftOpen : Bool)
    (hs : store.send s Database.beginStatement = (.error fault, s')) :
    (Call.unbegun (store.sending s Database.beginStatement) fault leftOpen :
      Call α).AllOrNothing [] effect (contents s) (contents s') := by
  refine Call.allOrNothing_of_error rfl (fun a h => ?_) (atomic.refused _ _ _ _ hs).2.1 ?_
  · cases h
  · exact .unbegun ⟨_, List.mem_cons_self, rfl,
      (Store.sending_outcome hs).1⟩

section Begun

variable {s s₁ s₂ s₃ : σ} {opening : Sending} {closing sendings : List Sending} {a : α}
  {ended result : Except Fault α} {inner : List (Event α)} {reply : Reply} {fault : Fault}
  {leftOpen : Bool}

theorem allOrNothing_committed (hbegin : opening.statement = Database.beginStatement)
    (hopening : opening.outcome = .ok reply) {reply' : Reply} {before after : τ}
    (hs : store.send s Database.commitStatement = (.ok reply', s₁))
    (hall : after = (successes inner).foldl effect before) :
    (Call.begun opening (.ok a) [store.sending s Database.commitStatement] (.ok a)
      leftOpen).AllOrNothing inner effect before after where
  returns b := by
    constructor
    · intro h
      exact ⟨⟨_, List.mem_cons_self, hbegin, _, hopening⟩,
        congrArg some h, _, List.mem_cons_of_mem _ (List.mem_singleton_self _), rfl, _,
        (Store.sending_outcome hs).1⟩
    · exact fun h => Option.some.inj h.2.1
  all _ _ := hall
  nothing _ h := by cases h
  explains _ h := by cases h

/-- What a call sent after its body did not commit if the store refused to. -/
theorem not_committed (hbegin : opening.statement = Database.beginStatement)
    (hs : store.send s Database.commitStatement = (.error fault, s₁))
    (hsendings : ∀ sending ∈ sendings, sending.statement = Database.rollbackStatement) :
    ¬(Call.begun opening ended (store.sending s Database.commitStatement :: sendings) result
      leftOpen).Succeeded Database.commitStatement := by
  rintro ⟨sending, hm, hstatement, reply, hreply⟩
  rcases List.mem_cons.1 hm with rfl | hm
  · exact commitStatement_ne_begin (hstatement.symm.trans hbegin)
  · rcases List.mem_cons.1 hm with rfl | hm
    · rw [(Store.sending_outcome hs).1] at hreply
      cases hreply
    · exact commitStatement_ne_rollback (hstatement.symm.trans (hsendings sending hm))

theorem explains_reported {cause : Fault} :
    (Call.begun opening (.error cause) closing result leftOpen).Explains
      (Database.reported cause) := by
  unfold Database.reported
  split
  · rename_i h
    exact .failed rfl h
  · rename_i h
    exact .aborted rfl (Bool.eq_false_iff.2 h)

/-- A transaction that was begun, if what was sent to roll it back is not refused. -/
theorem allOrNothing_begun (leftOpen : Bool)
    (atomic : store.Atomic ordinary contents saved effect)
    (hs : store.send s Database.beginStatement = (.ok reply, s₁))
    (hsaved : saved s₂ = some (contents s))
    (hinner : contents s₂ = (successes inner).foldl effect (contents s))
    (hc : store.Concludes ended s₂ closing result s₃)
    (accepted : ∀ sending ∈ closing, sending.statement = Database.rollbackStatement →
      ∀ fault, sending.outcome ≠ .error fault) :
    (Call.begun (store.sending s Database.beginStatement) ended closing result
      leftOpen).AllOrNothing inner effect (contents s) (contents s₃) ∧ saved s₃ = none := by
  have hopening := (Store.sending_outcome hs).1
  cases hc with
  | committed hcommit =>
      obtain ⟨hcontents, hnone⟩ := atomic.committed _ _ _ _ hsaved hcommit
      exact ⟨allOrNothing_committed rfl hopening hcommit (hcontents.trans hinner), hnone⟩
  | refused hcommit hf hr =>
      obtain ⟨-, -, hkept⟩ := atomic.refused _ _ _ _ hcommit
      obtain ⟨rfl, hcontents, hnone⟩ := hr.returns atomic
        (fun sending hm => accepted sending (List.mem_cons_of_mem _ hm) (hr.sent sending hm).1)
        (hkept.trans hsaved)
      refine ⟨Call.allOrNothing_of_error rfl (fun _ _ => ?_) hcontents ?_, hnone⟩
      · exact not_committed rfl hcommit fun sending hm => (hr.sent sending hm).1
      · exact .uncommitted rfl ⟨_, List.mem_cons_of_mem _ List.mem_cons_self, rfl,
          (Store.sending_outcome hcommit).1⟩
  | broken hcommit hf =>
      have hstore := (atomic.refused _ _ _ _ hcommit).1
      rw [hf] at hstore
      cases hstore
  | abandoned hr =>
      obtain ⟨rfl, hcontents, hnone⟩ := hr.returns atomic
        (fun sending hm => accepted sending hm (hr.sent sending hm).1) hsaved
      refine ⟨Call.allOrNothing_of_error rfl (fun _ h => ?_) hcontents explains_reported, hnone⟩
      cases h

end Begun

end Runs

/-! ## Transactions -/

theorem Program.action_transact (db : Database σ) (body : Program α) (session : Session σ) :
    ((transact body .done).action db).runFrom session =
      (db.transaction (body.action db)).runFrom session :=
  Action.runFrom_bind_ok (Action.runFrom_attempt _ session)

/-- A call for a transaction while none is open, whose rollback, if one is sent, is not refused,
returns or fails as a whole, and none is open after it. -/
theorem transaction_all_or_nothing {db : Database σ} {ordinary : Statement → Prop}
    {contents : σ → τ} {saved : σ → Option τ} {effect : τ → Statement → τ}
    (atomic : db.store.Atomic ordinary contents saved effect) {body : Program α}
    (only : body.Sends ordinary) {state : σ} (closed : db.store.inTransaction state = false)
    (journal : List Entry) :
    ∃ (call : Call α) (inner : List (Event α)) (after : Session σ),
      (db.transaction (body.action db)).runFrom ⟨state, journal⟩ = (call.outcome, after) ∧
      ((Program.transact body .done).recorded db).runFrom ⟨(state, []), journal⟩ =
        (call.outcome, ⟨(after.state, call.events inner), after.journal⟩) ∧
      ((∀ fault, ¬call.Refused Database.rollbackStatement fault) →
        call.AllOrNothing inner effect (contents state) (contents after.state) ∧
          db.store.inTransaction after.state = false) := by
  have hnone : saved state = none := by
    rw [atomic.isOpen] at closed
    simpa using closed
  obtain ⟨outcome, log, s', hruns, hleads⟩ := (Program.transact body .done).runs_recorded db state
  obtain ⟨journal', hrecorded⟩ := hleads [] journal
  have hplain := (Program.transact body .done).refines_recorded db ⟨(state, []), journal⟩
  rw [hrecorded] at hplain
  have hrun := (Program.action_transact db body ⟨state, journal⟩).symm.trans hplain
  cases hruns with
  | joined hopen =>
      rw [closed] at hopen
      cases hopen
  | @refused _ _ _ fault _ _ _ _ _ hs hdone =>
      cases hdone
      rw [List.nil_append, List.append_nil] at hrecorded
      refine ⟨.unbegun (db.store.sending state Database.beginStatement) fault
        (db.store.inTransaction s'), [], ⟨s', journal'⟩, hrun, hrecorded, fun _ => ⟨?_, ?_⟩⟩
      · exact allOrNothing_unbegun atomic _ hs
      · rw [atomic.isOpen, (atomic.refused _ _ _ _ hs).2.2, hnone]
        rfl
  | @begun _ _ _ _ _ ended inner _ closing _ _ _ _ _ _ hs hb hc hdone =>
      cases hdone
      rw [List.nil_append, List.append_nil] at hrecorded
      obtain ⟨hcontents, hkept⟩ := atomic.begun _ _ _ hnone hs
      obtain ⟨hsaved, hinner⟩ := hb.inside atomic only hkept
      rw [hcontents] at hinner
      refine ⟨.begun (db.store.sending state Database.beginStatement) ended closing outcome
        (db.store.inTransaction s'), inner, ⟨s', journal'⟩, hrun, hrecorded, fun accepted => ?_⟩
      have hcall := allOrNothing_begun (db.store.inTransaction s') atomic hs hsaved hinner hc
        fun sending hm hrollback fault hf =>
          accepted fault ⟨sending, List.mem_cons_of_mem _ hm, hrollback, hf⟩
      refine ⟨hcall.1, ?_⟩
      rw [atomic.isOpen, hcall.2]
      rfl

/-! ## A ledger -/

def Ledger.refusal : Fault := .raised .operational "refused"

/-- Answers a statement: a ledger adds it to its contents, and refuses one without text. -/
def Ledger.send (s : List Statement × Option (List Statement)) (statement : Statement) :
    Except Fault Reply × List Statement × Option (List Statement) :=
  match statement.sql, s.2 with
  | "BEGIN", none => (.ok {}, (s.1, some s.1))
  | "COMMIT", some _ => (.ok {}, (s.1, none))
  | "ROLLBACK", some before => (.ok {}, (before, none))
  | "BEGIN", _ | "COMMIT", _ | "ROLLBACK", _ | "", _ => (.error refusal, s)
  | _, _ => (.ok {}, (s.1 ++ [statement], s.2))

def ledger : Store (List Statement × Option (List Statement)) where
  send := Ledger.send
  inTransaction s := s.2.isSome
  close s := (s.2.getD s.1, none)

theorem ledger_atomic :
    ledger.Atomic (fun statement => statement.sql ∉ ["BEGIN", "COMMIT", "ROLLBACK"]) Prod.fst
      Prod.snd (fun contents statement => contents ++ [statement]) where
  isOpen _ := rfl
  refused := by
    rintro ⟨contents, saved⟩ ⟨sql, params⟩ fault s' h
    simp only [ledger, Ledger.send] at h
    split at h <;> cases h <;> exact ⟨rfl, rfl, rfl⟩
  ordinary := by
    rintro ⟨contents, saved⟩ ⟨sql, params⟩ reply s' ho h
    simp only [ledger, Ledger.send] at h
    split at h <;> cases h <;> simp_all
  begun := by
    rintro ⟨contents, saved⟩ reply s' rfl h
    cases h
    exact ⟨rfl, rfl⟩
  committed := by
    rintro ⟨contents, saved⟩ reply s' before rfl h
    cases h
    exact ⟨rfl, rfl⟩
  rolledBack := by
    rintro ⟨contents, saved⟩ reply s' before rfl h
    cases h
    exact ⟨rfl, rfl⟩

def ledgerDatabase : Database (List Statement × Option (List Statement)) where
  store := ledger
  settings := .error Ledger.refusal

def Event.text? : Event α → Option String
  | .sent sending => some sending.statement.sql
  | _ => none

/-- A body that swallows the failure of a transaction inside of it and a refused statement. -/
def stubbornBody : Program Nat :=
  .send ⟨"first", []⟩ fun _ =>
    .transact (.send ⟨"second", []⟩ fun _ => .done (.error (.raised .runtime "given up"))) fun _ =>
      .send ⟨"", []⟩ fun _ => .done (.ok 7)

theorem stubbornBody_texts :
    (((Program.transact stubbornBody .done).recorded ledgerDatabase).runFrom
      ⟨(([], none), []), []⟩).2.state.2.filterMap Event.text? =
        ["BEGIN", "first", "second", "", "COMMIT"] := by
  decide +kernel

theorem stubbornBody_all_or_nothing :
    ∃ (call : Call Nat) (inner : List (Event Nat)) (after : Session _),
    (ledgerDatabase.transaction (stubbornBody.action ledgerDatabase)).runFrom ⟨([], none), []⟩ =
      (call.outcome, after) ∧ call.outcome = .ok 7 ∧
      call.AllOrNothing inner (fun contents statement => contents ++ [statement]) []
        after.state.1 := by
  have only : stubbornBody.Sends fun statement =>
      statement.sql ∉ ["BEGIN", "COMMIT", "ROLLBACK"] := by
    simp [stubbornBody, Program.Sends]
  have closed : ledgerDatabase.store.inTransaction ([], none) = false := rfl
  have atomic : ledgerDatabase.store.Atomic _ _ _ _ := ledger_atomic
  obtain ⟨call, inner, after, hrun, hrecorded, hall⟩ :=
    transaction_all_or_nothing atomic only closed []
  refine ⟨call, inner, after, hrun, (congrArg Prod.fst hrun).symm.trans rfl, (hall ?_).1⟩
  -- the recorded run shows what was sent, and a rollback is not among it
  rintro fault ⟨sending, hm, hstatement, -⟩
  have htexts : (call.events inner).filterMap Event.text? =
      ["BEGIN", "first", "second", "", "COMMIT"] := by
    rw [← stubbornBody_texts, hrecorded]
  have hrollback : "ROLLBACK" ∈ (call.events inner).filterMap Event.text? :=
    List.mem_filterMap.2 ⟨_, Call.sent_mem_events hm inner, by rw [Event.text?, hstatement]; rfl⟩
  rw [htexts] at hrollback
  simp at hrollback

end TableRecords
