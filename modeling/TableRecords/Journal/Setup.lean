import TableRecords.Journal.Entry
import TableRecords.Journal.Timestamp
import TableRecords.Settings

/-! # Log setup

Where log entries go: the least level that is let through, and the handlers that write entries.
-/

namespace TableRecords

inductive Layout where
  | console
  | json
deriving DecidableEq, Repr

inductive Handler where
  | silent
  | stream (level : Int) (layout : Layout)
deriving DecidableEq, Repr

structure LogSetup where
  level : Int := Level.warning
  handlers : List Handler := []
deriving Repr

/-- An entry on one line of a console, with the time at which it was made; none when the message
or the time cannot be written. -/
def Entry.consoleText? (entry : Entry) (created : Value) : Option String := do
  let message ← entry.messageText.toOption
  let time ← timestamp? created
  let text ← message.toString?
  pure (time ++ " | " ++ Level.name entry.level ++ " | " ++ entry.logger ++ " | " ++ text)

namespace Layout

def text? (layout : Layout) (entry : Entry) (created : Value) : Option String :=
  match layout with
  | console => entry.consoleText? created
  | json => entry.jsonText.toOption

end Layout

namespace LogSetup

def levelOf (v : Value) : Except Fault Int :=
  match v with
  | .text name => (Level.ofName? (upperText name)).elim (.error .unknownLevel) .ok
  | .blob _ => .error .unknownLevel
  | _ => .error (.noMember v.typeName "upper")

/-- The setup with one handler in the place of all others. A setup that has handlers is only
replaced by force. -/
def configure (setup : LogSetup) (level : Value) (json force : Bool) : Except Fault LogSetup := do
  if !force && !setup.handlers.isEmpty then pure setup
  else
    let level ← levelOf level
    pure ⟨level, [.stream level (if json then .json else .console)]⟩

def configureFrom (setup : LogSetup) (settings : Settings) : Except Fault LogSetup :=
  setup.configure (.text settings.logLevel) settings.jsonLogs true

def addHandler (setup : LogSetup) (handler : Handler) : LogSetup :=
  { setup with handlers := setup.handlers ++ [handler] }

def isEnabled (setup : LogSetup) (level : Int) : Bool := 0 < level && setup.level ≤ level

/-- What one handler writes for an entry: nothing when the entry has no text in its layout. -/
def written (entry : Entry) (created : Value) : Handler → String
  | .silent => ""
  | .stream level layout =>
    if level ≤ entry.level then ((layout.text? entry created).map (· ++ "\n")).getD "" else ""

/-- What is written for an entry. An entry that is made may have no extra with the name of one of
its own attributes. -/
def emit (setup : LogSetup) (entry : Entry) (created : Value) : Except Fault String :=
  if setup.isEnabled entry.level then
    match entry.takenExtra? with
    | some name => .error (.entryAttribute name)
    | none => .ok (String.join (setup.handlers.map (written entry created)))
  else .ok ""

end LogSetup

end TableRecords
