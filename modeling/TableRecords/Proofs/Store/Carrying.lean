import Mathlib
import TableRecords.Proofs.Store.Sendings

/-! # Statements carried out in order

Statements are sent one after another until one fails. In a transaction of their own they are
committed together or rolled back; in one that is open already, what was sent is left to whoever
began it.
-/

namespace TableRecords

variable {σ : Type}

/-- Statements sent in order, up to and including the first that fails, and how that ended. -/
inductive Carried : List Statement → List Sending → Except Fault Unit → Prop
  | done : Carried [] [] (.ok ())
  | refused {sending rest fault} (h : sending.outcome = .error fault) :
      Carried (sending.statement :: rest) [sending] (.error fault)
  | taken {sending reply rest sent ended} (h : sending.outcome = .ok reply)
      (hr : Carried rest sent ended) :
      Carried (sending.statement :: rest) (sending :: sent) ended

/-- Whether a transaction is open after the last statement. -/
def leavesOpen (sent : List Sending) : Bool := sent.getLast?.any (·.after)

/-- What is sent to roll back: one statement, if a transaction is open still. -/
def RolledBack (sent rollback : List Sending) : Prop :=
  rollback.map (·.statement) = if leavesOpen sent then [Database.rollbackStatement] else []

/-- The ways of carrying out statements in a transaction, which may be open already. -/
inductive Transacted (statements : List Statement) :
    Bool → List Sending → Except Fault Unit → Prop
  | joined {sent ended} (h : Carried statements sent ended) : Transacted statements true sent ended
  | unbegun {opening fault} (hb : opening.statement = Database.beginStatement)
      (ho : opening.outcome = .error fault) : Transacted statements false [opening] (.error fault)
  | committed {opening begun sent closing reply} (hb : opening.statement = Database.beginStatement)
      (ho : opening.outcome = .ok begun) (h : Carried statements sent (.ok ()))
      (hc : closing.statement = Database.commitStatement) (hr : closing.outcome = .ok reply) :
      Transacted statements false (opening :: (sent ++ [closing])) (.ok ())
  | uncommitted {opening begun sent closing fault rollback}
      (hb : opening.statement = Database.beginStatement) (ho : opening.outcome = .ok begun)
      (h : Carried statements sent (.ok ())) (hc : closing.statement = Database.commitStatement)
      (hr : closing.outcome = .error fault) (hrolled : RolledBack [closing] rollback) :
      Transacted statements false (opening :: (sent ++ closing :: rollback)) (.error fault)
  | failed {opening begun sent fault rollback} (hb : opening.statement = Database.beginStatement)
      (ho : opening.outcome = .ok begun) (h : Carried statements sent (.error fault))
      (hrolled : RolledBack sent rollback) :
      Transacted statements false (opening :: (sent ++ rollback))
        (.error (.transactionFailed fault ""))

/-- The store fails with faults of its own, and with none when it is told to roll back. -/
structure Reliable (sent : List Sending) : Prop where
  own : ∀ sending ∈ sent, ∀ fault, sending.outcome = .error fault → fault.isStoreError = true
  rollback : ∀ sending ∈ sent, sending.statement = Database.rollbackStatement →
    ∀ fault, sending.outcome ≠ .error fault

theorem Reliable.mono {sent some : List Sending} (h : Reliable sent) (hs : some ⊆ sent) :
    Reliable some :=
  ⟨fun sending hm => h.own sending (hs hm), fun sending hm => h.rollback sending (hs hm)⟩

theorem Fault.isOrdinary_of_isStoreError {fault : Fault} (h : fault.isStoreError = true) :
    fault.isOrdinary = true := by
  have hkind : ∀ kind : FaultKind, kind.isStoreError = true → kind.isOrdinary = true := by
    intro kind
    cases kind <;> decide
  exact hkind fault.kind h

theorem Carried.ne_nil {statements : List Statement} {sent : List Sending} {fault : Fault}
    (h : Carried statements sent (.error fault)) : sent ≠ [] := by
  cases h with
  | refused _ => simp
  | taken _ _ => simp

theorem Carried.fault_mem {statements : List Statement} {sent : List Sending} {fault : Fault}
    (h : Carried statements sent (.error fault)) :
    ∃ sending ∈ sent, sending.outcome = .error fault := by
  generalize hended : (Except.error fault : Except Fault Unit) = ended at h
  induction h with
  | done => cases hended
  | refused ho =>
      cases hended
      exact ⟨_, List.mem_cons_self, ho⟩
  | taken _ _ ih =>
      obtain ⟨sending, hm, ho⟩ := ih hended
      exact ⟨sending, List.mem_cons_of_mem _ hm, ho⟩

namespace Store

variable {store : Store σ} {s s' : σ} {sent rollback : List Sending}

theorem Chain.leavesOpen_eq (h : store.Chain s sent s') (ne : sent ≠ []) :
    leavesOpen sent = store.inTransaction s' := by
  induction h with
  | nil => exact absurd rfl ne
  | @cons s statement rest s' h ih =>
      cases rest with
      | nil =>
          rw [h.eq_of_nil]
          rfl
      | cons next rest =>
          rw [← ih (by simp), leavesOpen, leavesOpen, List.getLast?_cons_cons]

theorem RollsBack.rolledBack {rolled : Except Fault Unit}
    (h : store.RollsBack s rollback rolled s') (hr : Reliable rollback)
    (hopen : leavesOpen sent = store.inTransaction s) :
    rolled = .ok () ∧ RolledBack sent rollback := by
  unfold RolledBack
  rw [hopen]
  cases h with
  | closed hclosed => simp [hclosed]
  | done hs _ => simp [hs, sending]
  | refused _ hs =>
      exact absurd (sending_outcome hs).1 (hr.rollback _ List.mem_cons_self rfl _)

theorem Concludes.transacted {ended result : Except Fault Unit} {s₁ s₂ s₃ : σ}
    {closing : List Sending} {statements : List Statement} {opening : Sending} {begun : Reply}
    (hc : store.Concludes ended s₂ closing result s₃) (hs : store.Chain s₁ sent s₂)
    (h : Carried statements sent ended) (hb : opening.statement = Database.beginStatement)
    (ho : opening.outcome = .ok begun) (hr : Reliable (sent ++ closing)) :
    Transacted statements false (opening :: (sent ++ closing)) result := by
  cases hc with
  | committed hcommit => exact .committed hb ho h rfl (sending_outcome hcommit).1
  | @refused _ _ s _ fault rollback _ hcommit hf hrolls =>
      obtain ⟨houtcome, hafter⟩ := sending_outcome hcommit
      have hrollback : Reliable rollback := hr.mono fun sending hm =>
        List.mem_append_right _ (List.mem_cons_of_mem _ hm)
      obtain ⟨rfl, hrolled⟩ := hrolls.rolledBack hrollback
        (show leavesOpen [store.sending s₂ Database.commitStatement] = _ from hafter)
      exact .uncommitted hb ho h rfl houtcome hrolled
  | broken hcommit hf =>
      have hown := hr.own _ (List.mem_append_right _ List.mem_cons_self) _
        (sending_outcome hcommit).1
      rw [hf] at hown
      cases hown
  | @abandoned fault _ _ rollback _ hrolls =>
      have hrollback : Reliable closing := hr.mono (List.subset_append_right _ _)
      obtain ⟨rfl, hrolled⟩ := hrolls.rolledBack hrollback (hs.leavesOpen_eq h.ne_nil)
      obtain ⟨sending, hm, hfault⟩ := h.fault_mem
      have hown := hr.own sending (List.mem_append_left _ hm) fault hfault
      have hreported : Database.reported fault = .transactionFailed fault "" :=
        if_pos (Fault.isOrdinary_of_isStoreError hown)
      show Transacted statements false _ (.error (Database.reported fault))
      rw [hreported]
      exact .failed hb ho h hrolled

end Store

namespace Database

variable {db : Database σ}

theorem always_executeAll (db : Database σ) (statements : List Statement) :
    db.Always ((db.recording Unit).executeAll statements) (db.executeAll statements)
      (Carried statements) := by
  induction statements with
  | nil => exact .ofExcept .done
  | cons statement rest ih =>
      refine (db.asks_execute statement).bind ?_ ?_
      · rintro sending fault rfl ho
        exact .refused ho
      · rintro sending reply rfl ho
        exact ih.imp fun more ended h => .taken ho h

/-- Statements in a transaction go one of the ways there are. -/
theorem sends_transacted (db : Database σ) (statements : List Statement) (s : σ) :
    ∃ sent ended s', db.Sends
        ((db.recording Unit).transaction ((db.recording Unit).executeAll statements))
        (db.transaction (db.executeAll statements)) s sent ended s' ∧
      (Reliable sent → Transacted statements (db.store.inTransaction s) sent ended) := by
  cases hopen : db.store.inTransaction s with
  | true =>
      obtain ⟨sent, ended, s', hs, hcarried⟩ := db.always_executeAll statements s
      exact ⟨sent, ended, s', hs.joined hopen, fun _ => .joined hcarried⟩
  | false =>
      cases hb : db.store.send s beginStatement with
      | mk answer s₁ =>
          have hanswer := (Store.sending_outcome hb).1
          cases answer with
          | error fault =>
              exact ⟨_, _, s₁, .unbegun hopen hb, fun _ => .unbegun rfl hanswer⟩
          | ok reply =>
              obtain ⟨sent, ended, s₂, hs, hcarried⟩ := db.always_executeAll statements s₁
              obtain ⟨closing, result, s₃, hc, hbegun⟩ := hs.begun hopen hb
              refine ⟨_, result, s₃, hbegun, fun hr => ?_⟩
              exact hc.transacted hs.chain hcarried rfl hanswer
                (hr.mono (List.subset_cons_self _ _))

end Database

end TableRecords
