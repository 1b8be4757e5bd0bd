import TableRecords.Journal.JsonValue
import TableRecords.Journal.Level
import TableRecords.Journal.Template

/-! # Log entries

An entry has a level, the name of its logger, a message with arguments, perhaps the report of a
fault and of the stack, and extras by key. As JSON it is one object: level, logger and message,
the two reports if they are there, the extras, and the members of an extra called `extra`.
-/

namespace TableRecords

structure Entry where
  logger : String
  level : Int
  message : Value
  arguments : List Value := []
  /-- The report of a fault, with the trace of where it was raised. -/
  failure : Option String := none
  stack : Value := .null
  extras : Pairs := []
  isBare : Bool := false
deriving Repr

/-- A fault that was not raised has no trace. -/
instance : Coe (Option Fault) (Option String) := ⟨Option.map Fault.report⟩

namespace Entry

def typeName : String := "LogRecord"

def ownAttributes : List String :=
  ["name", "msg", "args", "levelname", "levelno", "pathname", "filename", "module", "exc_info",
    "exc_text", "stack_info", "lineno", "funcName", "created", "msecs", "relativeCreated", "thread",
    "threadName", "processName", "process"]

def isTaken (name : String) : Bool :=
  ownAttributes.contains name || name == "message" || name == "asctime"

def isShown (name : String) : Bool :=
  !(isTaken name || name == "extra" || name.toList.head? == some '_')

def extra? (entry : Entry) (name : String) : Option Value :=
  (Entries.find? entry.extras (.text name)).map (·.2)

def takenExtra? (entry : Entry) : Option String :=
  entry.extras.findSome? fun extra =>
    match extra.1 with
    | .text name => if isTaken name then some name else none
    | _ => none

/-- The entry with a further extra, set as an attribute. The key must be text; the entry's type and
its weak references cannot be set, and a mapping set for all attributes takes their place. -/
def attach (entry : Entry) (key v : Value) : Except Fault Entry :=
  match key with
  | .text "__class__" => .error (.notAType v.typeName)
  | .text "__weakref__" => .error (.notWritable typeName "__weakref__")
  | .text "__dict__" =>
    match v with
    | .map entries => .ok { entry with extras := entries, isBare := true }
    | _ => .error (.notAMapping v.typeName)
  | .text _ => .ok { entry with extras := Entries.assign key v entry.extras }
  | _ => .error (.nameNotText key.typeName)

def attachAll (entry : Entry) (extras : Pairs) : Except Fault Entry :=
  extras.foldlM (fun entry extra => entry.attach extra.1 extra.2) entry

/-- What an attribute is, given the entry's own: an extra of that name comes first, and an entry
that has lost its own attributes has no other. -/
def read {α : Type} (entry : Entry) (name : String) (ofExtra : Value → α) (own : α) :
    Except Fault α :=
  match entry.extra? name with
  | some v => .ok (ofExtra v)
  | none => if entry.isBare then .error (.noMember typeName name) else .ok own

/-- The arguments as the template of the message takes them: a single mapping gives them by key. -/
def givenArguments (entry : Entry) : Option Template.Supply :=
  match entry.arguments with
  | [] => none
  | [.map (first :: rest)] => some (.ofValue (.map (first :: rest)))
  | arguments => some (.ofList arguments)

def supply (entry : Entry) : Except Fault (Option Template.Supply) :=
  entry.read "args" (fun v => if v.isTruthy then some (.ofValue v) else none)
    entry.givenArguments

/-- The text of the message, filled in if there are arguments. An extra that takes the place of the
operation that makes it is no operation. -/
def messageText (entry : Entry) : Except Fault CodePoints :=
  match entry.extra? "getMessage" with
  | some v => .error (.notCallable v.typeName)
  | none => do
    let template ← entry.read "msg" Value.toText entry.message.toText
    match ← entry.supply with
    | none => .ok (.ofString template)
    | some supply => fillTemplate template supply

def part (v : Value) (n : Nat) : Except Fault Value :=
  let orOutOfRange (container : String) (found : Option Value) : Except Fault Value :=
    found.elim (.error (.outOfRange container)) .ok
  match v with
  | .list items => orOutOfRange "list" items[n]?
  | .text s => orOutOfRange "string" (s.toList[n]?.map fun c => .text c.toString)
  | .blob bytes => orOutOfRange "" (bytes[n]?.map fun b => .int b.toNat)
  | .map entries =>
    match Entries.find? entries (.int n) with
    | some entry => .ok entry.2
    | none => .error (.missingKey (.int n))
  | _ => .error (.withoutParts v.typeName)

def checkAbsent (member : String) (v : Value) : Except Fault Unit :=
  match v with
  | .null => .ok ()
  | _ => .error (.noMember v.typeName member)

/-- The report of what is put in the place of a fault: a kind, a cause and a trace. The trace is
taken first; none of them can be more than null. -/
def replacementReport (v : Value) : Except Fault String := do
  let trace ← part v 2
  let _ ← part v 0
  let cause ← part v 1
  checkAbsent "tb_frame" trace
  checkAbsent "__suppress_context__" cause
  pure (cause.typeName ++ ": " ++ cause.toText)

/-- The report of the fault, which an extra may take away or replace. -/
def failureReport (entry : Entry) : Except Fault (Option String) := do
  let replacement (v : Value) : Except Fault (Option String) :=
    if v.isTruthy then some <$> replacementReport v else .ok none
  let report ← entry.read "exc_info" replacement (.ok entry.failure)
  report

def stackReport (entry : Entry) : Except Fault (Option Value) := do
  let report ← entry.read "stack_info" id entry.stack
  pure (if report.isTruthy then some report else none)

def shownExtras (entry : Entry) : Except Fault Pairs :=
  entry.extras.filterM fun extra => isShown <$> extra.1.nameText

def nestedExtras (entry : Entry) : Pairs :=
  match entry.extra? "extra" with
  | some (.map entries) => entries
  | _ => []

/-- The members of an entry by key, each with its JSON or why it has none. -/
abbrev Payload := List (Value × Except Fault JsonValue)

/-- The entry as a mapping. Extras that have the key of an earlier member replace its value. -/
def payload (entry : Entry) : Except Fault Payload := do
  let level ← entry.read "levelname" id (.text (Level.name entry.level))
  let logger ← entry.read "name" id (.text entry.logger)
  let message ← entry.messageText
  let failure ← entry.failureReport
  let stack ← entry.stackReport
  let shown ← entry.shownExtras
  let member (name : String) (v : Value) : Value × Except Fault JsonValue :=
    (.text name, JsonValue.ofValue v)
  let head : Payload :=
    [member "level" level, member "logger" logger, (.text "message", .ok (.text message))]
  let reports : Payload :=
    (failure.map fun report => member "exc_info" (.text report)).toList ++
      (stack.map (member "stack_info")).toList
  pure ((shown ++ entry.nestedExtras).foldl
    (fun payload extra => Entries.assign extra.1 (JsonValue.ofValue extra.2) payload)
    (head ++ reports))

def members (payload : Payload) : Except Fault (List (String × JsonValue)) :=
  payload.mapM fun member => do
    let key ← JsonValue.keyText member.1
    let item ← member.2
    pure (key, item)

def jsonText (entry : Entry) : Except Fault String := do
  let payload ← entry.payload
  let members ← members payload
  pure (JsonValue.object members).render

end Entry

end TableRecords
