import TableRecords.Proofs.Store.Running
import TableRecords.Store.Opening
import TableRecords.Store.Playback

/-! # Attempts at opening a store

An attempt fails before there is a connection, or at the first pragma that the store refuses, and
then the connection is closed; or it leaves a connection that was sent all three pragmas. A fault
that may pass is met with another attempt after a pause, up to three in all. What opening a store
comes to is what the last attempt came to.
-/

namespace TableRecords

variable {σ τ α : Type}

/-- What is relied on of whatever repeats an action. -/
structure Retrying.Lawful (retrying : Retrying) : Prop where
  /-- An attempt without a fault is the last. -/
  ended : ∀ {τ α : Type} {policy wait} {action : Action τ α} {number s a s'},
    action.runFrom s = (.ok a, s') →
      (retrying.run policy wait action number).runFrom s = (.ok a, s')
  /-- So is one with a fault that is not retried; the fault is handed on. -/
  failed : ∀ {τ α : Type} {policy wait} {action : Action τ α} {number s fault s'},
    action.runFrom s = (.error fault, s') → policy.retries fault = false →
      (retrying.run policy wait action number).runFrom s = (.error fault, s')
  /-- So is one after which there is none left; its fault is handed on too. -/
  stopped : ∀ {τ α : Type} {policy wait} {action : Action τ α} {number s fault s'},
    action.runFrom s = (.error fault, s') → policy.attempts ≤ number →
      (retrying.run policy wait action number).runFrom s = (.error fault, s')
  /-- Any other is followed by a wait and then the next. -/
  repeated : ∀ {τ α : Type} {policy wait} {action : Action τ α} {number s fault s'},
    action.runFrom s = (.error fault, s') → policy.retries fault = true →
      number < policy.attempts →
      (retrying.run policy wait action number).runFrom s = (do
        wait (policy.wait number)
        retrying.run policy wait action (number + 1)).runFrom s'

/-- Statements are answered, or refused with a fault of the store; none is sent after a refusal. -/
def Store.Serves (store : Store σ) (accepted : Statement → Reply → Prop) :
    List Statement → σ → Prop
  | [], _ => True
  | statement :: rest, s =>
    match store.send s statement with
    | (.ok reply, s') => accepted statement reply ∧ store.Serves accepted rest s'
    | (.error fault, _) => fault.isStoreError = true

namespace Retrying

theorem runFrom_attempts_succ {policy : RetryPolicy} {wait : Nat → Action τ Unit}
    {action : Action τ α} {s s' : Session τ} {fault : Fault}
    (h : action.runFrom s = (.error fault, s')) (number further : Nat) :
    (attempts policy wait action number (further + 1)).runFrom s =
      (if policy.retries fault then do
        wait (policy.wait number)
        attempts policy wait action (number + 1) further
      else throw fault).runFrom s' :=
  Action.runFrom_attempt_bind h

theorem loop_lawful : Lawful loop where
  ended {_ _ policy _ _ number _ _ _} h := by
    dsimp only [loop]
    cases policy.attempts - number with
    | zero => exact h
    | succ further => exact Action.runFrom_attempt_bind h
  failed {_ _ policy _ _ number _ _ _} h hf := by
    dsimp only [loop]
    cases policy.attempts - number with
    | zero => exact h
    | succ further =>
        rw [runFrom_attempts_succ h, hf, if_neg Bool.false_ne_true, Action.runFrom_throw]
  stopped {_ _ _ _ _ _ _ _ _} h hn := by
    dsimp only [loop]
    rw [Nat.sub_eq_zero_of_le hn]
    exact h
  repeated {_ _ policy _ _ number _ _ _} h hf hn := by
    obtain ⟨further, hfurther⟩ := Nat.exists_eq_add_of_lt hn
    have hnow : policy.attempts - number = further + 1 := by omega
    have hthen : policy.attempts - (number + 1) = further := by omega
    dsimp only [loop]
    rw [hnow, hthen, runFrom_attempts_succ h, if_pos hf]

end Retrying

namespace Opening

def pragma (name value : String) : Statement := ⟨"PRAGMA " ++ name ++ " = " ++ value, []⟩

def pragmas (settings : Settings) : List Statement :=
  [pragma "busy_timeout" (toString settings.busyTimeout.val),
    pragma "foreign_keys" (if settings.foreignKeys then "ON" else "OFF"),
    pragma "journal_mode" settings.journalMode.name]

/-- The journal mode is answered with a text. Nothing is read from the other answers. -/
def NamesMode (settings : Settings) (statement : Statement) (reply : Reply) : Prop :=
  statement = pragma "journal_mode" settings.journalMode.name →
    ∃ mode, reportedMode reply = .ok (.text mode)

/-- Statements sent on a connection in order, up to the first that the store refuses: what happens,
how it ends, and the connection that is left. -/
inductive Sent (store : Store σ) :
    List Statement → σ → List (Happening σ) → Except Fault Unit → σ → Prop
  | done {s} : Sent store [] s [] (.ok ()) s
  | refused {statement rest s fault s'} (h : store.send s statement = (.error fault, s')) :
      Sent store (statement :: rest) s [.sent statement s'] (.error fault) s'
  | taken {statement rest s reply s₁ happenings ended s'}
      (h : store.send s statement = (.ok reply, s₁)) (hr : Sent store rest s₁ happenings ended s') :
      Sent store (statement :: rest) s (.sent statement s₁ :: happenings) ended s'

/-- The ways one attempt goes, after a number of earlier ones: what happens, and the connection or
the fault it ends with. -/
inductive Goes (plan : Plan σ) (n : Nat) : List (Happening σ) → Except Fault σ → Prop
  | unreached {fault} (hc : plan.connect n = .error fault) :
      Goes plan n [.tried plan.path plan.timeout (.error fault)] (.error fault)
  | closed {s happenings fault s'} (hc : plan.connect n = .ok s)
      (h : Sent plan.store (pragmas plan.settings) s happenings (.error fault) s') :
      Goes plan n (.tried plan.path plan.timeout (.ok s) ::
        (happenings ++ [.closed (plan.store.close s')])) (.error fault)
  | opened {s happenings s'} (hc : plan.connect n = .ok s)
      (h : Sent plan.store (pragmas plan.settings) s happenings (.ok ()) s') :
      Goes plan n (.tried plan.path plan.timeout (.ok s) :: happenings) (.ok s')

/-- Attempts in a row, with up to `further` more after this one. A store that fails to operate is
met with another one after a pause, if there is one left; anything else ends them. -/
inductive Trials (plan : Plan σ) : Nat → Nat → List (Happening σ) → Except Fault σ → Prop
  | last {n further happenings ended} (hg : Goes plan n happenings ended)
      (h : further = 0 ∨ ∀ fault, ended = .error fault → fault.kind ≠ .operational) :
      Trials plan n further happenings ended
  | again {n further happenings fault rest ended} (hg : Goes plan n happenings (.error fault))
      (h : fault.kind = .operational) (hr : Trials plan (n + 1) further rest ended) :
      Trials plan n (further + 1) (happenings ++ .paused (100 * 2 ^ n) :: rest) ended

section

variable {store : Store σ} {settings : Settings} {plan : Plan σ} {n : Nat} {s s' : σ}
  {happenings before : List (Happening σ)} {journal : List Entry} {statements : List Statement}
  {ended : Except Fault Unit}

theorem countP_isTry_sent (h : Sent store statements s happenings ended s') :
    happenings.countP isTry = 0 := by
  induction h with
  | done => rfl
  | refused _ => rfl
  | taken _ _ ih => exact ih

theorem countP_isTry_goes {ended : Except Fault σ} (h : Goes plan n happenings ended) :
    happenings.countP isTry = 1 := by
  cases h with
  | unreached _ => rfl
  | closed _ h => rw [List.countP_cons, List.countP_append, countP_isTry_sent h]; rfl
  | opened _ h => rw [List.countP_cons, countP_isTry_sent h]; rfl

theorem runFrom_sendUnlogged {statement : Statement} {answer : Except Fault Reply}
    (h : store.send s statement = (answer, s')) :
    (sendUnlogged store statement).runFrom ⟨⟨s, before⟩, journal⟩ =
      (answer, ⟨⟨s', before ++ [.sent statement s']⟩, journal⟩) := by
  show ((store.send s statement).1, (⟨⟨(store.send s statement).2, before ++
    [.sent statement (store.send s statement).2]⟩, journal⟩ : Session (Progress σ))) = _
  rw [h]

/-- The action sends the statements, up to and including the first that fails, and ends as that
did. A fault is one of the store. -/
def Carries (store : Store σ) (action : Action (Progress σ) Unit) (statements : List Statement)
    (s : σ) : Prop :=
  ∃ happenings ended s', Sent store statements s happenings ended s' ∧
    (∀ fault, ended = .error fault → fault.isStoreError = true) ∧
    ∀ before journal, ∃ journal', action.runFrom ⟨⟨s, before⟩, journal⟩ =
      (ended, ⟨⟨s', before ++ happenings⟩, journal'⟩)

theorem Carries.sendUnlogged_bind {accepted : Statement → Reply → Prop} {statement : Statement}
    {next : Reply → Action (Progress σ) Unit}
    (hs : store.Serves accepted (statement :: statements) s)
    (hn : ∀ reply s', accepted statement reply → store.Serves accepted statements s' →
      Carries store (next reply) statements s') :
    Carries store (sendUnlogged store statement >>= next) (statement :: statements) s := by
  unfold Store.Serves at hs
  cases h : store.send s statement with
  | mk answer s₁ =>
      rw [h] at hs
      cases answer with
      | error fault =>
          refine ⟨_, .error fault, s₁, .refused h, ?_, fun before journal => ⟨journal, ?_⟩⟩
          · intro other ho
            cases ho
            exact hs
          · exact Action.runFrom_bind_error (runFrom_sendUnlogged h)
      | ok reply =>
          obtain ⟨happenings, ended, s', hsent, hfault, hrun⟩ := hn reply s₁ hs.1 hs.2
          refine ⟨_, ended, s', .taken h hsent, hfault, fun before journal => ?_⟩
          obtain ⟨journal', hrun⟩ := hrun (before ++ [.sent statement s₁]) journal
          rw [List.append_assoc] at hrun
          exact ⟨journal', (Action.runFrom_bind_ok (runFrom_sendUnlogged h)).trans hrun⟩

theorem carries_report {reply : Reply} {mode : String}
    (h : reportedMode reply = .ok (.text mode)) (s : σ) : Carries store (do
      let reported ← Action.ofExcept (reportedMode reply)
      if !(← Action.ofExcept (isMode settings.journalMode reported)) then
        Action.log (Database.entry Level.debug "Journal mode not applied"
          [("requested", .text settings.journalMode.name), ("effective", reported)])) [] s := by
  refine ⟨[], .ok (), s, .done, ?_, fun before journal => ?_⟩
  · intro fault hf
    cases hf
  rw [h, List.append_nil]
  simp only [Action.runFrom_bind, Action.runFrom_ofExcept, isMode]
  cases upperText mode == settings.journalMode.name with
  | true => exact ⟨_, rfl⟩
  | false => exact ⟨_, rfl⟩

theorem pragmas_eq (settings : Settings) :
    pragmas settings =
      [waitingPragma settings, foreignKeysPragma settings, journalPragma settings] := rfl

theorem carries_prepare (h : store.Serves (NamesMode settings) (pragmas settings) s) :
    Carries store (prepare store settings) (pragmas settings) s := by
  rw [pragmas_eq] at h ⊢
  refine Carries.sendUnlogged_bind h fun _ s₁ _ h₁ => ?_
  refine Carries.sendUnlogged_bind h₁ fun _ s₂ _ h₂ => ?_
  refine Carries.sendUnlogged_bind h₂ fun reply s₃ hmode _ => ?_
  obtain ⟨mode, hmode⟩ := hmode rfl
  exact carries_report hmode s₃

theorem runFrom_tryOnce_error {fault : Fault} (hn : before.countP isTry = n)
    (hc : plan.connect n = .error fault) :
    (tryOnce plan).runFrom ⟨before, journal⟩ =
      (.error fault, ⟨before ++ [.tried plan.path plan.timeout (.error fault)], journal⟩) := by
  refine Action.runFrom_bind_error ?_
  rw [← hc, ← hn]
  rfl

theorem runFrom_tryOnce_ok (hn : before.countP isTry = n) (hc : plan.connect n = .ok s) :
    (tryOnce plan).runFrom ⟨before, journal⟩ =
      (onConnection (prepareOrClose plan.store plan.settings) s).runFrom
        ⟨before ++ [.tried plan.path plan.timeout (.ok s)], journal⟩ := by
  refine Action.runFrom_bind_ok ?_
  rw [← hc, ← hn]
  rfl

theorem runFrom_onConnection {action : Action (Progress σ) Unit} {after : List (Happening σ)}
    {journal' : List Entry}
    (h : action.runFrom ⟨⟨s, before⟩, journal⟩ = (ended, ⟨⟨s', after⟩, journal'⟩)) :
    (onConnection action s).runFrom ⟨before, journal⟩ =
      (ended.map fun _ => s', ⟨after, journal'⟩) := by
  exact congrArg (fun run => (run.1.map fun _ => run.2.state.connection,
    (⟨run.2.state.happenings, run.2.journal⟩ : Session (List (Happening σ))))) h

theorem tryOnce_goes (journal : List Entry) (hn : before.countP isTry = n)
    (h : ∀ s, plan.connect n = .ok s →
      plan.store.Serves (NamesMode plan.settings) (pragmas plan.settings) s) :
    ∃ happenings ended journal', Goes plan n happenings ended ∧
      (tryOnce plan).runFrom ⟨before, journal⟩ = (ended, ⟨before ++ happenings, journal'⟩) := by
  cases hc : plan.connect n with
  | error fault => exact ⟨_, _, _, .unreached hc, runFrom_tryOnce_error hn hc⟩
  | ok s =>
      obtain ⟨happenings, ended, s', hsent, hfault, hrun⟩ := carries_prepare (h s hc)
      obtain ⟨journal', hrun⟩ :=
        hrun (before ++ [.tried plan.path plan.timeout (.ok s)]) journal
      rw [List.append_assoc] at hrun
      cases ended with
      | ok _ =>
          have hopened : (prepareOrClose plan.store plan.settings).runFrom
              ⟨⟨s, before ++ [.tried plan.path plan.timeout (.ok s)]⟩, journal⟩ =
              (.ok (), ⟨⟨s', before ++ .tried plan.path plan.timeout (.ok s) :: happenings⟩,
                journal'⟩) := Action.runFrom_attempt_bind hrun
          exact ⟨_, _, journal', .opened hc hsent,
            (runFrom_tryOnce_ok hn hc).trans (runFrom_onConnection hopened)⟩
      | error fault =>
          have hclosed : (prepareOrClose plan.store plan.settings).runFrom
              ⟨⟨s, before ++ [.tried plan.path plan.timeout (.ok s)]⟩, journal⟩ =
              (.error fault, ⟨⟨plan.store.close s', before ++
                .tried plan.path plan.timeout (.ok s) ::
                  (happenings ++ [.closed (plan.store.close s')])⟩, journal'⟩) := by
            refine (Action.runFrom_attempt_bind hrun).trans ?_
            simp only [hfault fault rfl, if_true]
            show (_, (⟨⟨plan.store.close s', (before ++ (_ :: happenings)) ++ [_]⟩, journal'⟩ :
              Session (Progress σ))) = _
            rw [List.append_assoc]
            rfl
          exact ⟨_, _, journal', .closed hc hsent,
            (runFrom_tryOnce_ok hn hc).trans (runFrom_onConnection hclosed)⟩

end

/-! ## Attempts in a row -/

section

variable {retrying : Retrying} {plan : Plan σ}

theorem wait_policy {n : Nat} (h : n < 2) : policy.wait (n + 1) = 100 * 2 ^ n := by
  interval_cases n <;> rfl

theorem retrying_trials (hretrying : retrying.Lawful)
    (h : ∀ n s, plan.connect n = .ok s →
      plan.store.Serves (NamesMode plan.settings) (pragmas plan.settings) s)
    (further n : Nat) (hfurther : n + further = 2) (before : List (Happening σ))
    (hn : before.countP isTry = n) (journal : List Entry) :
    ∃ happenings ended journal', Trials plan n further happenings ended ∧
      (retrying.run policy pause (tryOnce plan) (n + 1)).runFrom ⟨before, journal⟩ =
        (ended, ⟨before ++ happenings, journal'⟩) := by
  -- an attempt that is met with another one comes before those that follow it
  induction further generalizing n before journal with
  | zero =>
      obtain ⟨happenings, ended, journal', hgoes, hrun⟩ :=
        tryOnce_goes journal hn (h n)
      refine ⟨happenings, ended, journal', .last hgoes (.inl rfl), ?_⟩
      cases ended with
      | ok _ => exact hretrying.ended hrun
      | error _ => exact hretrying.stopped hrun (show 3 ≤ n + 1 by omega)
  | succ further ih =>
      obtain ⟨happenings, ended, journal', hgoes, hrun⟩ :=
        tryOnce_goes journal hn (h n)
      cases ended with
      | ok _ =>
          exact ⟨happenings, _, journal', .last hgoes (.inr nofun), hretrying.ended hrun⟩
      | error fault =>
          by_cases hkind : fault.kind = .operational
          · have hretries : policy.retries fault = true := beq_iff_eq.2 hkind
            have hcount : (before ++ happenings ++
                [Happening.paused (100 * 2 ^ n)]).countP isTry = n + 1 := by
              rw [List.countP_append, List.countP_append, hn, countP_isTry_goes hgoes]
              rfl
            obtain ⟨rest, ended, journal'', hrest, hnext⟩ := ih (n + 1) (by omega) _ hcount journal'
            refine ⟨_, ended, journal'', .again hgoes hkind hrest, ?_⟩
            rw [hretrying.repeated hrun hretries (show n + 1 < 3 by omega),
              wait_policy (show n < 2 by omega)]
            refine (Action.runFrom_bind_ok rfl).trans (hnext.trans ?_)
            rw [List.append_assoc, List.append_assoc, List.singleton_append]
          · have hretries : policy.retries fault = false := beq_eq_false_iff_ne.2 hkind
            refine ⟨happenings, _, journal', .last hgoes (.inr ?_), hretrying.failed hrun hretries⟩
            rintro _ ⟨⟩
            exact hkind

theorem ofPlan_trials (hretrying : retrying.Lawful)
    (h : ∀ n s, plan.connect n = .ok s →
      plan.store.Serves (NamesMode plan.settings) (pragmas plan.settings) s) :
    ∃ ended, Trials plan 0 2 (ofPlan retrying plan).happenings ended ∧
      (ofPlan retrying plan).outcome =
        ended.map fun connection => ⟨⟨plan.store, plan.path, plan.ambient⟩, connection⟩ := by
  obtain ⟨happenings, ended, journal, htrials, hrun⟩ :=
    retrying_trials hretrying h 2 0 rfl [] rfl []
  refine ⟨ended, ?_⟩
  cases ended with
  | error fault =>
      have hwhole : (run retrying plan).runFrom { state := [] } =
          (.error fault, ⟨happenings, journal⟩) := Action.runFrom_bind_error hrun
      unfold ofPlan
      rw [hwhole]
      exact ⟨htrials, rfl⟩
  | ok connection =>
      have hwhole : (run retrying plan).runFrom { state := [] } =
          (.ok ⟨⟨plan.store, plan.path, plan.ambient⟩, connection⟩,
            ⟨happenings, journal ++ [openedEntry plan]⟩) := Action.runFrom_bind_ok hrun
      unfold ofPlan
      rw [hwhole]
      exact ⟨htrials, rfl⟩

end

end Opening

section

variable {retrying : Retrying} {store : Store σ} {path : String} {given : Option Settings}
  {ambient : Except Fault Settings} {connect : Nat → Except Fault σ} {settings : Settings}
  {timeout : Binary64}

theorem openDatabaseWith_eq (hsettings : given.elim ambient Except.ok = .ok settings)
    (htimeout : Opening.seconds settings.busyTimeout.val.toNat = .ok timeout) :
    openDatabaseWith retrying store path given ambient connect = Opening.ofPlan retrying
      ⟨store, settings, ambient, if path.isEmpty then settings.path else path, timeout,
        connect⟩ := by
  -- a variable, so that nothing computes the seconds where the sides are compared
  obtain ⟨seconds, hseconds⟩ : ∃ f, f = Opening.seconds := ⟨_, rfl⟩
  rw [← hseconds] at htimeout
  unfold openDatabaseWith
  rw [← hseconds, hsettings]
  dsimp only
  rw [htimeout]

/-- Opening a store makes attempts until one does not fail or fails for good, three at most, with a
pause after each of them but the last. Each connection is closed again, except the one that was
sent all three pragmas and is in the database. -/
theorem openDatabase_retried (path : String) (hretrying : retrying.Lawful)
    (hsettings : given.elim ambient Except.ok = .ok settings)
    (htimeout : Opening.seconds settings.busyTimeout.val.toNat = .ok timeout)
    (hserves : ∀ n s, connect n = .ok s →
      store.Serves (Opening.NamesMode settings) (Opening.pragmas settings) s) :
    let target := if path.isEmpty then settings.path else path
    let opening := openDatabaseWith retrying store path given ambient connect
    ∃ ended, Opening.Trials ⟨store, settings, ambient, target, timeout, connect⟩ 0 2
        opening.happenings ended ∧
      opening.outcome = ended.map fun connection => ⟨⟨store, target, ambient⟩, connection⟩ := by
  dsimp only
  rw [openDatabaseWith_eq hsettings htimeout]
  exact Opening.ofPlan_trials hretrying hserves

end

/-- A store that cannot be reached at first, is locked the second time and then answers. -/
def Playback.reachedLate : Nat → Except Fault Playback
  | 0 => .error (.raised .operational "unable to open database file")
  | 1 => .ok { replies := [{}, { outcome := .error (.raised .operational "database is locked") }] }
  | _ => .ok { replies := [{}, {},
      { outcome := .ok { rows := [.ofColumns [(.text "journal_mode", .text "wal")]] } }] }

theorem Playback.serves_reachedLate (n : Nat) (p : Playback) (h : reachedLate n = .ok p) :
    Playback.store.Serves (Opening.NamesMode {}) (Opening.pragmas {}) p := by
  match n with
  | 0 => cases h
  | 1 =>
      cases h
      exact ⟨fun hmode => absurd (congrArg Statement.sql hmode) (by decide), rfl⟩
  | _ + 2 =>
      cases h
      refine ⟨?_, ?_, fun _ => ⟨"wal", rfl⟩, trivial⟩
      · exact fun hmode => absurd (congrArg Statement.sql hmode) (by decide)
      · exact fun hmode => absurd (congrArg Statement.sql hmode) (by decide)

theorem openDatabase_retried_late :
    let opening :=
      openDatabaseWith Retrying.loop Playback.store "" (some {}) (.ok {}) Playback.reachedLate
    let busy := "PRAGMA busy_timeout = 5000"
    let foreign := "PRAGMA foreign_keys = ON"
    Retrying.loop.Lawful ∧
    opening.attempts.map (fun attempt =>
      attempt.state.map fun p => (p.sent.map (·.sql), p.isOpen)) =
      [none, some ([busy, foreign], false),
        some ([busy, foreign, "PRAGMA journal_mode = WAL"], true)] ∧
    opening.pauses = [100, 200] ∧
    ∃ timeout ended, Opening.seconds 5000 = .ok timeout ∧
      Opening.Trials ⟨Playback.store, {}, .ok {}, ":memory:", timeout, Playback.reachedLate⟩ 0 2
        opening.happenings ended ∧
      opening.outcome =
        ended.map fun connection => ⟨⟨Playback.store, ":memory:", .ok {}⟩, connection⟩ := by
  let settings : Settings := {}
  have hsettings : (some settings).elim (.ok {}) .ok = (.ok settings : Except Fault Settings) := rfl
  have hpath : (if "".isEmpty then settings.path else "") = ":memory:" := if_pos rfl
  have hseconds : (Opening.seconds 5000).isOk = true := by decide +kernel
  cases htimeout : Opening.seconds 5000 with
  | error fault =>
      rw [htimeout] at hseconds
      cases hseconds
  | ok timeout =>
      have hbusy : Opening.seconds settings.busyTimeout.val.toNat = .ok timeout := htimeout
      obtain ⟨ended, htrials, houtcome⟩ :=
        openDatabase_retried "" Retrying.loop_lawful hsettings hbusy Playback.serves_reachedLate
      rw [hpath] at htrials houtcome
      refine ⟨Retrying.loop_lawful, ?_, ?_, timeout, ended, rfl, htrials, houtcome⟩
      · decide +kernel
      · decide +kernel

end TableRecords
