import TableRecords.Coercion
import TableRecords.Text.Upper
import TableRecords.Value.Key

/-! # Settings

The settings of the library. A setting is taken from the values given, else from the environment,
else it has its default. Each has a field name and a longer name by which both sources know it too;
the longer name wins. Names are matched without regard to letter case.
-/

namespace TableRecords

inductive JournalMode where
  | wal | delete | truncate | memory | off
deriving DecidableEq, Repr

namespace JournalMode

def all : List JournalMode := [wal, delete, truncate, memory, off]

def name : JournalMode → String
  | wal => "WAL"
  | delete => "DELETE"
  | truncate => "TRUNCATE"
  | memory => "MEMORY"
  | off => "OFF"

def ofValue (v : Value) : Except ProblemKind JournalMode :=
  match all.find? fun mode => v.same (.text mode.name) with
  | some mode => .ok mode
  | none => .error .notListed

end JournalMode

structure Settings where
  path : String := ":memory:"
  journalMode : JournalMode := .wal
  busyTimeout : AtLeast 0 := ⟨5000, by decide⟩
  foreignKeys : Bool := true
  searchLimit : AtLeast 1 := ⟨20, by decide⟩
  logLevel : String := "INFO"
  jsonLogs : Bool := false
deriving Repr

abbrev Environment := List (String × String)

/-- A character in small letters; the Kelvin sign is a capital k. -/
def smallLetter (c : Char) : Char := if c == '\u212A' then 'k' else c.toLower

def smallLetters (name : String) : String := String.ofList (name.toList.map smallLetter)

def sameName (name other : String) : Bool := smallLetters name == smallLetters other

/-- The variable of that name; the last of several counts. -/
def Environment.lookup (environment : Environment) (name : String) : Option String :=
  (environment.reverse.find? fun entry => sameName entry.1 name).map (·.2)

def givenUnder (given : Pairs) (name : String) : Option Value :=
  given.findSome? fun entry =>
    match entry.1 with
    | .text s => if sameName s name then some entry.2 else none
    | _ => none

namespace Settings

def longName (field : String) : String := "ROWKIT_" ++ upperText field

def find (given : Pairs) (environment : Environment) (field : String) : Option Value :=
  let long := longName field
  let inEnvironment (name : String) := (environment.lookup name).map Value.text
  givenUnder given long <|> givenUnder given field <|> inEnvironment long <|> inEnvironment field

/-- The name that a problem with a field is reported under: its own name if exactly that was given
and the longer one was not. -/
def reportedName (given : Pairs) (field : String) : String :=
  let isGiven (name : String) := (Entries.find? given (.text name)).isSome
  if !isGiven (longName field) && isGiven field then field else longName field

def setting {α : Type} (given : Pairs) (environment : Environment) (field : String)
    (coerce : Value → Except ProblemKind α) (default : α) : Checked α :=
  match find given environment field with
  | some v => .located [.name (reportedName given field)] (coerce v)
  | none => .passed default

def ofPairs (given : Pairs) (environment : Environment) : Checked Settings :=
  let default : Settings := {}
  Settings.mk
    <$> setting given environment "db_path" Value.coerceText default.path
    <*> setting given environment "journal_mode" JournalMode.ofValue default.journalMode
    <*> setting given environment "busy_timeout_ms" (Value.coerceAtLeast 0) default.busyTimeout
    <*> setting given environment "foreign_keys" Value.coerceBool default.foreignKeys
    <*> setting given environment "search_limit" (Value.coerceAtLeast 1) default.searchLimit
    <*> setting given environment "log_level" Value.coerceText default.logLevel
    <*> setting given environment "json_logs" Value.coerceBool default.jsonLogs

def load (given : Pairs) (environment : Environment) : Except Fault Settings := do
  checkNames given
  (ofPairs given environment).outcome.mapError Fault.rejected

def toPairs (settings : Settings) : Pairs :=
  [(.text "db_path", .text settings.path),
    (.text "journal_mode", .text settings.journalMode.name),
    (.text "busy_timeout_ms", .int settings.busyTimeout.val),
    (.text "foreign_keys", .bool settings.foreignKeys),
    (.text "search_limit", .int settings.searchLimit.val),
    (.text "log_level", .text settings.logLevel),
    (.text "json_logs", .bool settings.jsonLogs)]

end Settings

end TableRecords
