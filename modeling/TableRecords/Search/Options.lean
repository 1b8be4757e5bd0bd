import TableRecords.Coercion
import TableRecords.Fields

/-! # Search options

What a search may be asked for besides its query. Options are read from a mapping; names that no
option has are problems too.
-/

namespace TableRecords

/-- The options of a search, within their bounds. Conditions apply to the table searched. -/
structure SearchOptions where
  limit : Option (AtLeast 1) := none
  offset : AtLeast 0 := ⟨0, by decide⟩
  snippet : Bool := false
  snippetColumn : Option String := none
  snippetTokens : Within 1 64 := ⟨16, by decide⟩
  highlight : Bool := false
  openMark : String := "<b>"
  closeMark : String := "</b>"
  ellipsis : String := "..."
  literal : Bool := false
  conditions : Option Fields := none
deriving Repr

namespace SearchOptions

def names : List String :=
  ["limit", "offset", "snippet", "snippet_column", "snippet_tokens", "highlight", "open_mark",
    "close_mark", "ellipsis", "literal", "conditions"]

def given? (pairs : Pairs) (name : String) : Option Value :=
  (Entries.find? pairs (.text name)).map (·.2)

def option {α : Type} (pairs : Pairs) (name : String) (coerce : Value → Except ProblemKind α)
    (default : α) : Checked α :=
  match given? pairs name with
  | some v => .located [.name name] (coerce v)
  | none => .passed default

def conditionEntry (entry : Value × Value) : Checked (Value × Value) :=
  (fun name => (.text name, entry.2)) <$>
    Checked.located [.name "conditions", .ofKey entry.1, .name "[key]"] entry.1.coerceText

/-- The mapping of conditions. Of two keys that read as one text, the later gives the value. -/
def conditionsOf : Option Value → Checked (Option Fields)
  | none => .passed none
  | some .null => .passed none
  | some (.map entries) =>
    (fun entries => some (Fields.ofPairs entries)) <$> Checked.each conditionEntry entries
  | some _ => .failed [⟨[.name "conditions"], .mapType⟩]

def unknown? (key : Value) : Option Problem :=
  match key with
  | .text name => if names.contains name then none else some ⟨[.name name], .unknownName⟩
  | _ => some ⟨[.ofKey key], .keyType⟩

def ofPairs (pairs : Pairs) : Checked SearchOptions :=
  let default : SearchOptions := {}
  SearchOptions.mk
    <$> option pairs "limit" (Value.coerceOptional (Value.coerceAtLeast 1)) default.limit
    <*> option pairs "offset" (Value.coerceAtLeast 0) default.offset
    <*> option pairs "snippet" Value.coerceBool default.snippet
    <*> option pairs "snippet_column" (Value.coerceOptional Value.coerceText) default.snippetColumn
    <*> option pairs "snippet_tokens" (Value.coerceWithin 1 64) default.snippetTokens
    <*> option pairs "highlight" Value.coerceBool default.highlight
    <*> option pairs "open_mark" Value.coerceText default.openMark
    <*> option pairs "close_mark" Value.coerceText default.closeMark
    <*> option pairs "ellipsis" Value.coerceText default.ellipsis
    <*> option pairs "literal" Value.coerceBool default.literal
    <*> conditionsOf (given? pairs "conditions")
    <* Checked.without (pairs.filterMap fun entry => unknown? entry.1)

def ofValue : Value → Checked SearchOptions
  | .map entries => ofPairs entries
  | _ => .failed [⟨[], .groupType⟩]

def validate (v : Value) : Except Fault SearchOptions :=
  (ofValue v).outcome.mapError Fault.rejected

/-- The options a value gives: null for the defaults, or else what a validation makes of it. -/
def loadWith (validate : Value → Except Fault SearchOptions) : Value → Except Fault SearchOptions
  | .null => .ok {}
  | v => validate v

def load (v : Value) : Except Fault SearchOptions := loadWith validate v

def ofNames (given : Pairs) : Except Fault SearchOptions := do
  checkNames given
  load (.map given)

def conditionPairs (options : SearchOptions) : Pairs := (options.conditions.getD .empty).entries

def orNull {α : Type} (toValue : α → Value) : Option α → Value
  | some a => toValue a
  | none => .null

def toPairs (options : SearchOptions) : Pairs :=
  [(.text "limit", orNull (fun n => .int n.val) options.limit),
    (.text "offset", .int options.offset.val),
    (.text "snippet", .bool options.snippet),
    (.text "snippet_column", orNull .text options.snippetColumn),
    (.text "snippet_tokens", .int options.snippetTokens.val),
    (.text "highlight", .bool options.highlight),
    (.text "open_mark", .text options.openMark),
    (.text "close_mark", .text options.closeMark),
    (.text "ellipsis", .text options.ellipsis),
    (.text "literal", .bool options.literal),
    (.text "conditions", orNull (fun _ => .map options.conditionPairs) options.conditions)]

end SearchOptions

end TableRecords
