import TableRecords.Store.Database
import TableRecords.Store.Retrying

/-! # Opening a store

A store is connected to and prepared by three pragmas. When it is busy this is tried again after a
while, three times in all; a connection that could not be prepared because the store refused is
closed again.
-/

namespace TableRecords

variable {σ : Type}

/-- What happens while a store is opened. A connection is shown as it then is. -/
inductive Happening (σ : Type) where
  | tried (path : String) (timeout : Binary64) (reached : Except Fault σ)
  | sent (statement : Statement) (connection : σ)
  | closed (connection : σ)
  | paused (milliseconds : Nat)

structure Opened (σ : Type) extends Database σ where
  connection : σ

/-- What opening a store came to, what happened on the way, and the log entries. -/
structure Opening (σ : Type) where
  outcome : Except Fault (Opened σ)
  happenings : List (Happening σ) := []
  journal : List Entry := []

/-- One attempt: how the store was connected to, and what its connection was like in the end. -/
structure Attempt (σ : Type) where
  path : String
  timeout : Binary64
  state : Option σ

namespace Opening

/-- The attempts after a happening; the last one comes first. -/
def attemptsAfter (attempts : List (Attempt σ)) (happening : Happening σ) : List (Attempt σ) :=
  match happening, attempts with
  | .tried path timeout reached, _ => ⟨path, timeout, reached.toOption⟩ :: attempts
  | .sent _ connection, attempt :: rest => { attempt with state := some connection } :: rest
  | .closed connection, attempt :: rest => { attempt with state := some connection } :: rest
  | _, _ => attempts

def attempts (opening : Opening σ) : List (Attempt σ) :=
  (opening.happenings.foldl attemptsAfter []).reverse

def pauses (opening : Opening σ) : List Nat :=
  opening.happenings.filterMap fun
    | .paused milliseconds => some milliseconds
    | _ => none

def waitingPragma (settings : Settings) : Statement :=
  ⟨"PRAGMA busy_timeout = " ++ toString settings.busyTimeout.val, []⟩

def foreignKeysPragma (settings : Settings) : Statement :=
  ⟨"PRAGMA foreign_keys = " ++ (if settings.foreignKeys then "ON" else "OFF"), []⟩

def journalPragma (settings : Settings) : Statement :=
  ⟨"PRAGMA journal_mode = " ++ settings.journalMode.name, []⟩

structure Progress (σ : Type) where
  connection : σ
  happenings : List (Happening σ)

def sendUnlogged (store : Store σ) (statement : Statement) : Action (Progress σ) Reply :=
  ExceptT.mk fun session =>
    let (reply, connection) := store.send session.state.connection statement
    (reply, { session with
      state := ⟨connection, session.state.happenings ++ [.sent statement connection]⟩ })

def reportedMode (reply : Reply) : Except Fault Value :=
  match reply.rows with
  | [] => .error (.withoutParts Value.null.typeName)
  | row :: _ => Database.firstColumn row

def isMode (mode : JournalMode) (reported : Value) : Except Fault Bool :=
  match reported with
  | .text s => .ok (upperText s == mode.name)
  | .blob _ => .ok false
  | _ => .error (.noMember reported.typeName "upper")

def prepare (store : Store σ) (settings : Settings) : Action (Progress σ) Unit := do
  let _ ← sendUnlogged store (waitingPragma settings)
  let _ ← sendUnlogged store (foreignKeysPragma settings)
  let reply ← sendUnlogged store (journalPragma settings)
  let reported ← Action.ofExcept (reportedMode reply)
  if !(← Action.ofExcept (isMode settings.journalMode reported)) then
    Action.log (Database.entry Level.debug "Journal mode not applied"
      [("requested", .text settings.journalMode.name), ("effective", reported)])

def closeConnection (store : Store σ) : Action (Progress σ) Unit :=
  Action.modifyState fun progress =>
    let connection := store.close progress.connection
    ⟨connection, progress.happenings ++ [.closed connection]⟩

def prepareOrClose (store : Store σ) (settings : Settings) : Action (Progress σ) Unit := do
  match ← (prepare store settings).attempt with
  | .ok () => pure ()
  | .error fault =>
    if fault.isStoreError then closeConnection store
    throw fault

def seconds (milliseconds : Nat) : Except Fault Binary64 :=
  match Magnitude.ofRatio? milliseconds 1000 with
  | some magnitude => .ok (.finite false magnitude)
  | none => .error .quotientTooLarge

/-- What stays fixed over the attempts. -/
structure Plan (σ : Type) where
  store : Store σ
  settings : Settings
  /-- The settings in force once the store is open. -/
  ambient : Except Fault Settings
  path : String
  timeout : Binary64
  /-- What connecting comes to, by how often it was tried before. -/
  connect : Nat → Except Fault σ

def isTry : Happening σ → Bool
  | .tried .. => true
  | _ => false

def reach (plan : Plan σ) : Action (List (Happening σ)) σ :=
  ExceptT.mk fun session =>
    let reached := plan.connect (session.state.countP isTry)
    (reached, { session with state := session.state ++ [.tried plan.path plan.timeout reached] })

/-- Runs an action on a connection and hands the connection on. -/
def onConnection (action : Action (Progress σ) Unit) (connection : σ) :
    Action (List (Happening σ)) σ :=
  ExceptT.mk fun session =>
    let (outcome, after) := action.runFrom ⟨⟨connection, session.state⟩, session.journal⟩
    (outcome.map fun _ => after.state.connection, ⟨after.state.happenings, after.journal⟩)

def tryOnce (plan : Plan σ) : Action (List (Happening σ)) σ := do
  let connection ← reach plan
  onConnection (prepareOrClose plan.store plan.settings) connection

/-- Three attempts if the store is busy, with waits from a tenth of a second up to two seconds. -/
def policy : RetryPolicy :=
  { attempts := 3, retried := .operational, multiplier := 100, least := 100, most := 2000 }

def pause (milliseconds : Nat) : Action (List (Happening σ)) Unit :=
  Action.modifyState (· ++ [.paused milliseconds])

def openedEntry (plan : Plan σ) : Entry :=
  Database.entry Level.debug "Opened database"
    [("path", .text plan.path), ("journal_mode", .text plan.settings.journalMode.name)]

def run (retrying : Retrying) (plan : Plan σ) : Action (List (Happening σ)) (Opened σ) := do
  let connection ← retrying.run policy pause (tryOnce plan) 1
  Action.log (openedEntry plan)
  pure { store := plan.store, path := plan.path, settings := plan.ambient, connection }

def ofPlan (retrying : Retrying) (plan : Plan σ) : Opening σ :=
  let (outcome, session) := (run retrying plan).runFrom { state := [] }
  ⟨outcome, session.state, session.journal⟩

end Opening

/-- Opens a store, with the attempts repeated as is given. -/
def openDatabaseWith (retrying : Retrying) (store : Store σ) (path : String)
    (given : Option Settings) (ambient : Except Fault Settings) (connect : Nat → Except Fault σ) :
    Opening σ :=
  match given.elim ambient Except.ok with
  | .error fault => { outcome := .error fault }
  | .ok settings =>
    match Opening.seconds settings.busyTimeout.val.toNat with
    | .error fault => { outcome := .error fault }
    | .ok timeout =>
      let path := if path.isEmpty then settings.path else path
      Opening.ofPlan retrying ⟨store, settings, ambient, path, timeout, connect⟩

def openDatabase (store : Store σ) (path : String) (given : Option Settings)
    (ambient : Except Fault Settings) (connect : Nat → Except Fault σ) : Opening σ :=
  openDatabaseWith Retrying.loop store path given ambient connect

end TableRecords
