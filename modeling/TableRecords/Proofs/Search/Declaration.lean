import Mathlib
import TableRecords.Proofs.Outcome
import TableRecords.Proofs.Sql.Tokens
import TableRecords.Search.Index

/-! # Declarations of search indexes

A reader of the statements that make a search index takes from the text alone which columns the
index has, when a trigger runs, and what an insertion puts in which place. It reads every statement
that creates an index.
-/

namespace TableRecords

open Token (mark word)

/-- What an insertion puts in a place: text, or a column of a row that a trigger runs for. -/
inductive Operand where
  | literal (s : String)
  | column (row name : String)
deriving DecidableEq, Repr

structure Insertion where
  target : String
  places : List String
  operands : List Operand
deriving DecidableEq, Repr

/-- An index over columns of another table; options have a name and a value. -/
structure Declaration where
  name : String
  columns : List String
  options : List (String × String)
deriving DecidableEq, Repr

structure Trigger where
  name : String
  event : String
  table : String
  body : List Insertion
deriving DecidableEq, Repr

inductive Command where
  | declare (declaration : Declaration)
  | attach (trigger : Trigger)
  | insert (insertion : Insertion)
deriving DecidableEq, Repr

def readName : List Token → Option String
  | [word s] => some s
  | _ => none

def readOperand : List Token → Option Operand
  | [.literal s] => some (.literal s)
  | [word row, mark '.', word name] => some (.column row name)
  | _ => none

def readMember : List Token → Option (String ⊕ String × String)
  | [word s] => some (.inl s)
  | [word name, mark '=', .literal value] => some (.inr (name, value))
  | _ => none

def skip : List Token → List Token → Option (List Token)
  | [], tokens => some tokens
  | _ :: _, [] => none
  | expected :: more, token :: tokens => if token = expected then skip more tokens else none

def takeWord : List Token → Option (String × List Token)
  | word s :: tokens => some (s, tokens)
  | _ => none

/-- The members of a list in brackets, of which the first is open already, and what follows. -/
def readList {α : Type} (read : List Token → Option α) (tokens : List Token) :
    Option (List α × List Token) := do
  let (parts, rest) ← readParts (mark ',') (mark ')') 0 [] tokens
  let members ← parts.mapM read
  pure (members, rest)

def insertionOpening : List Token := [word "INSERT", word "INTO"]

def valuesOpening : List Token := [word "VALUES", mark '(']

def readInsertion (tokens : List Token) : Option Insertion := do
  let tokens ← skip insertionOpening tokens
  let (target, tokens) ← takeWord tokens
  let tokens ← skip [mark '('] tokens
  let (places, tokens) ← readList readName tokens
  let tokens ← skip valuesOpening tokens
  let (operands, tokens) ← readList readOperand tokens
  guard tokens.isEmpty
  pure ⟨target, places, operands⟩

def declarationOpening : List Token :=
  [word "CREATE", word "VIRTUAL", word "TABLE", word "IF", word "NOT", word "EXISTS"]

def membersOpening : List Token := [word "USING", word "fts5", mark '(']

def readDeclaration (tokens : List Token) : Option Declaration := do
  let tokens ← skip declarationOpening tokens
  let (name, tokens) ← takeWord tokens
  let tokens ← skip membersOpening tokens
  let (members, tokens) ← readList readMember tokens
  guard tokens.isEmpty
  pure ⟨name, members.filterMap Sum.getLeft?, members.filterMap Sum.getRight?⟩

def triggerOpening : List Token :=
  [word "CREATE", word "TRIGGER", word "IF", word "NOT", word "EXISTS"]

/-- A trigger whose body is a list of insertions, each with a semicolon behind it. -/
def readTrigger (tokens : List Token) : Option Trigger := do
  let tokens ← skip triggerOpening tokens
  let (name, tokens) ← takeWord tokens
  let tokens ← skip [word "AFTER"] tokens
  let (event, tokens) ← takeWord tokens
  let tokens ← skip [word "ON"] tokens
  let (table, tokens) ← takeWord tokens
  let tokens ← skip [word "BEGIN"] tokens
  let (parts, tokens) ← readParts (mark ';') (word "END") 0 [] tokens
  guard (parts.getLast? = some [] ∧ tokens = [])
  let body ← parts.dropLast.mapM readInsertion
  pure ⟨name, event, table, body⟩

def readCommand (sql : String) : Option Command := do
  let tokens ← tokens? sql
  (.declare <$> readDeclaration tokens) <|> (.attach <$> readTrigger tokens) <|>
    (.insert <$> readInsertion tokens)

theorem skip_append (expected tokens : List Token) :
    skip expected (expected ++ tokens) = some tokens := by
  induction expected with
  | nil => rfl
  | cons token expected ih =>
      rw [List.cons_append, skip, if_pos rfl]
      exact ih

theorem skip_cons (token : Token) (tokens : List Token) :
    skip [token] (token :: tokens) = some tokens := skip_append [token] tokens

def commas (parts : List (List Token)) : List Token := [mark ','].intercalate parts

def isBracket (token : Token) : Bool := token = mark '(' || token = mark ')'

theorem depthAfter_inside {separator stop : Token} (depth : Nat) {tokens : List Token}
    (h : ∀ token ∈ tokens, isBracket token = false) :
    depthAfter separator stop (depth + 1) tokens = some (depth + 1) := by
  induction tokens with
  | nil => rfl
  | cons token tokens ih =>
      have htoken := h token List.mem_cons_self
      have hdepth : token.depthAfter (depth + 1) = depth + 1 := by
        unfold Token.depthAfter
        split <;> simp_all [isBracket]
      rw [depthAfter, if_neg (by simp), hdepth]
      exact ih fun other ho => h other (List.mem_cons_of_mem token ho)

theorem mapM_eq_some_map {α β : Type} {f : α → Option β} {g : α → β} {as : List α}
    (h : ∀ a ∈ as, f a = some (g a)) : as.mapM f = some (as.map g) := by
  induction as with
  | nil => rfl
  | cons a as ih =>
      have hrest := ih fun b hb => h b (List.mem_cons_of_mem a hb)
      simp [h a List.mem_cons_self, hrest]

theorem mapM_tokens {α : Type} {read : List Token → Option α} {tokens : α → List Token}
    {members : List α} (h : ∀ a ∈ members, read (tokens a) = some a) :
    (members.map tokens).mapM read = some members := by
  have hread : members.mapM (read ∘ tokens) = some (members.map id) := mapM_eq_some_map h
  rw [List.mapM_map, hread, List.map_id]

/-- A list is read back if each of its members is. -/
theorem readList_commas {α : Type} {read : List Token → Option α} {tokens : α → List Token}
    {members : List α} (ne : members ≠ [])
    (h : ∀ a ∈ members, read (tokens a) = some a ∧ IsPart (mark ',') (mark ')') (tokens a))
    (rest : List Token) :
    readList read (commas (members.map tokens) ++ mark ')' :: rest) = some (members, rest) := by
  have hall : ∀ part ∈ members.map tokens, IsPart (mark ',') (mark ')') part := by
    intro part hp
    obtain ⟨a, ha, rfl⟩ := List.mem_map.1 hp
    exact (h a ha).2
  have hparts := readParts_intercalate (by decide) (by simpa using ne) hall rest
  have hread := mapM_tokens fun a ha => (h a ha).1
  simp only [readList, commas, hparts, Option.bind_eq_bind, Option.bind_some, hread]
  rfl

def nameTokens (s : String) : List Token := [word s]

theorem readName_tokens (s : String) :
    readName (nameTokens s) = some s ∧ IsPart (mark ',') (mark ')') (nameTokens s) :=
  ⟨rfl, by simp [IsPart, nameTokens, depthAfter, Token.depthAfter]⟩

/-- Within brackets no list ends among the members of another. -/
theorem depthAfter_commas {separator stop : Token} {depth : Nat} {parts : List (List Token)}
    (h : ∀ part ∈ parts, depthAfter separator stop (depth + 1) part = some (depth + 1)) :
    depthAfter separator stop (depth + 1) (commas parts) = some (depth + 1) := by
  induction parts with
  | nil => rfl
  | cons first rest ih =>
      have hfirst := h first List.mem_cons_self
      cases rest with
      | nil => rwa [commas, List.intercalate_singleton]
      | cons second rest =>
          rw [commas, List.intercalate_cons_cons, List.append_assoc, depthAfter_append hfirst,
            List.singleton_append, depthAfter, if_neg (by simp)]
          exact ih fun part hp => h part (List.mem_cons_of_mem first hp)

namespace Operand

def tokens : Operand → List Token
  | literal s => [.literal s]
  | column row name => [word row, mark '.', word name]

theorem read_tokens (operand : Operand) : readOperand operand.tokens = some operand ∧
    IsPart (mark ',') (mark ')') operand.tokens := by
  cases operand with
  | literal s => exact ⟨rfl, by simp [IsPart, tokens, depthAfter, Token.depthAfter]⟩
  | column row name => exact ⟨rfl, by simp [IsPart, tokens, depthAfter, Token.depthAfter]⟩

theorem isBracket_tokens (operand : Operand) :
    ∀ token ∈ operand.tokens, isBracket token = false := by
  cases operand with
  | literal s => simp [tokens, isBracket]
  | column row name => simp [tokens, isBracket]

end Operand

namespace Insertion

def tokens (insertion : Insertion) : List Token :=
  insertionOpening ++ word insertion.target :: mark '(' ::
    (commas (insertion.places.map nameTokens) ++ mark ')' ::
      (valuesOpening ++ (commas (insertion.operands.map Operand.tokens) ++ [mark ')'])))

def IsSome (insertion : Insertion) : Prop := insertion.places ≠ [] ∧ insertion.operands ≠ []

theorem read_tokens {insertion : Insertion} (h : insertion.IsSome) :
    readInsertion insertion.tokens = some insertion := by
  have hplaces := readList_commas h.1 (fun s _ => readName_tokens s)
    (valuesOpening ++ (commas (insertion.operands.map Operand.tokens) ++ [mark ')']))
  have hoperands := readList_commas h.2 (fun o _ => o.read_tokens) []
  simp [tokens, readInsertion, skip_append, skip_cons, takeWord, hplaces, hoperands]

theorem isPart (insertion : Insertion) (h : insertion.target ≠ "END") :
    IsPart (mark ';') (word "END") insertion.tokens := by
  have hplaces : depthAfter (mark ';') (word "END") 1
      (commas (insertion.places.map nameTokens)) = some 1 := by
    refine depthAfter_commas fun part hp => ?_
    obtain ⟨name, _, rfl⟩ := List.mem_map.1 hp
    exact depthAfter_inside 0 (by simp [nameTokens, isBracket])
  have hoperands : depthAfter (mark ';') (word "END") 1
      (commas (insertion.operands.map Operand.tokens)) = some 1 := by
    refine depthAfter_commas fun part hp => ?_
    obtain ⟨operand, _, rfl⟩ := List.mem_map.1 hp
    exact depthAfter_inside 0 operand.isBracket_tokens
  simp [IsPart, tokens, insertionOpening, valuesOpening, depthAfter, Token.depthAfter, h,
    depthAfter_append hplaces, depthAfter_append hoperands]

end Insertion

namespace Trigger

def tokens (trigger : Trigger) : List Token :=
  triggerOpening ++ word trigger.name :: word "AFTER" :: word trigger.event ::
    word "ON" :: word trigger.table :: word "BEGIN" ::
      ((trigger.body.map Insertion.tokens).flatMap (· ++ [mark ';']) ++ [word "END"])

theorem read_tokens {trigger : Trigger}
    (h : ∀ insertion ∈ trigger.body, insertion.IsSome ∧ insertion.target ≠ "END") :
    readTrigger trigger.tokens = some trigger := by
  have hall : ∀ part ∈ trigger.body.map Insertion.tokens,
      IsPart (mark ';') (word "END") part := by
    intro part hp
    obtain ⟨insertion, hi, rfl⟩ := List.mem_map.1 hp
    exact insertion.isPart (h insertion hi).2
  have hparts := readParts_terminated (by decide) hall []
  have hbody := mapM_tokens fun insertion hi => Insertion.read_tokens (h insertion hi).1
  simp [tokens, readTrigger, skip_append, skip_cons, takeWord, hparts, hbody]

end Trigger

namespace Declaration

def serving (name table rowid : String) (columns : List String) : Declaration :=
  ⟨name, columns, [("content", table), ("content_rowid", rowid)]⟩

def memberTokens : String ⊕ String × String → List Token
  | .inl s => [word s]
  | .inr option => [word option.1, mark '=', .literal option.2]

def members (declaration : Declaration) : List (String ⊕ String × String) :=
  declaration.columns.map Sum.inl ++ declaration.options.map Sum.inr

def tokens (declaration : Declaration) : List Token :=
  declarationOpening ++ word declaration.name ::
    (membersOpening ++ (commas (declaration.members.map memberTokens) ++ [mark ')']))

theorem readMember_tokens (member : String ⊕ String × String) :
    readMember (memberTokens member) = some member ∧
      IsPart (mark ',') (mark ')') (memberTokens member) := by
  cases member with
  | inl s => exact ⟨rfl, by simp [IsPart, memberTokens, depthAfter, Token.depthAfter]⟩
  | inr option => exact ⟨rfl, by simp [IsPart, memberTokens, depthAfter, Token.depthAfter]⟩

theorem filterMap_members (declaration : Declaration) :
    declaration.members.filterMap Sum.getLeft? = declaration.columns ∧
      declaration.members.filterMap Sum.getRight? = declaration.options := by
  simp [members, List.filterMap_append, List.filterMap_map, Function.comp_def]

theorem read_tokens {declaration : Declaration} (h : declaration.columns ≠ []) :
    readDeclaration declaration.tokens = some declaration := by
  have hne : declaration.members ≠ [] := by simp [members, h]
  have hmembers := readList_commas hne (fun member _ => readMember_tokens member) []
  simp [tokens, readDeclaration, skip_append, takeWord, hmembers, filterMap_members]

end Declaration

theorem readCommand_declaration {sql : String} {declaration : Declaration}
    (h : Lexes sql declaration.tokens) (ne : declaration.columns ≠ []) :
    readCommand sql = some (.declare declaration) := by
  unfold Lexes at h
  simp [readCommand, h, Declaration.read_tokens ne]

theorem readCommand_trigger {sql : String} {trigger : Trigger} (h : Lexes sql trigger.tokens)
    (hbody : ∀ insertion ∈ trigger.body, insertion.IsSome ∧ insertion.target ≠ "END") :
    readCommand sql = some (.attach trigger) := by
  have hother : readDeclaration trigger.tokens = none := rfl
  unfold Lexes at h
  simp [readCommand, h, hother, Trigger.read_tokens hbody]

theorem readCommand_insertion {sql : String} {insertion : Insertion}
    (h : Lexes sql insertion.tokens) (some : insertion.IsSome) :
    readCommand sql = .some (.insert insertion) := by
  have hdeclaration : readDeclaration insertion.tokens = none := rfl
  have htrigger : readTrigger insertion.tokens = none := rfl
  unfold Lexes at h
  simp [readCommand, h, hdeclaration, htrigger, Insertion.read_tokens some]

/-! ## The statements that create an index -/

theorem Lexes.commas {pieces : List String} {parts : List (List Token)}
    (h : List.Forall₂ Lexes pieces parts) : Lexes (", ".intercalate pieces) (commas parts) :=
  Lexes.intercalate (by decide) (by decide) h

theorem commas_cons {first : List Token} {rest : List (List Token)} (ne : rest ≠ []) :
    commas (first :: rest) = first ++ mark ',' :: commas rest := by
  rw [commas, List.intercalate_cons_of_ne_nil ne, List.append_assoc]
  rfl

theorem commas_append {first second : List (List Token)} (ne : first ≠ []) (ne' : second ≠ []) :
    commas (first ++ second) = commas first ++ mark ',' :: commas second := by
  induction first with
  | nil => exact absurd rfl ne
  | cons part first ih =>
      rw [List.cons_append, commas_cons (by simp [ne'])]
      cases first with
      | nil => simp [commas]
      | cons next first =>
          rw [ih (by simp), commas_cons (List.cons_ne_nil next first), List.append_assoc]
          rfl

namespace SearchIndex

variable (table : Identifier) (columns : List Identifier)

def columnNames : List String := columns.map (·.text)

def declaration : Declaration :=
  .serving (name table).text table.text primaryKey.text (columnNames columns)

/-- What an entry holds: the key of a row, and its values in the columns. -/
def entryOperands (row : String) : List Operand :=
  (primaryKey.text :: columnNames columns).map (.column row)

def addition : Insertion :=
  ⟨(name table).text, "rowid" :: columnNames columns, entryOperands columns "new"⟩

def withdrawal : Insertion :=
  ⟨(name table).text, (name table).text :: "rowid" :: columnNames columns,
    .literal "delete" :: entryOperands columns "old"⟩

def refilling : Insertion := ⟨(name table).text, [(name table).text], [.literal "rebuild"]⟩

def trigger (ending event : String) (body : List Insertion) : Trigger :=
  ⟨(name table).text ++ ending, event, table.text, body⟩

def triggers : List Trigger :=
  [trigger table "_ai" "INSERT" [addition table columns],
    trigger table "_ad" "DELETE" [withdrawal table columns],
    trigger table "_au" "UPDATE" [withdrawal table columns, addition table columns]]

variable {table columns}

theorem lexes_entryColumns (ne : columns ≠ []) : Lexes (entryColumns columns)
    (commas (("rowid" :: columnNames columns).map nameTokens)) := by
  have htext : entryColumns columns = ", ".intercalate ("rowid" :: columns.map (·.text)) := by
    rw [String.intercalate_cons_of_ne_nil (by simpa using ne)]
    rfl
  rw [htext, columnNames, List.map_cons, List.map_map]
  have hrowid : Lexes "rowid" (nameTokens "rowid") := by decide
  refine Lexes.commas (.cons hrowid ?_)
  rw [List.forall₂_map_left_iff, List.forall₂_map_right_iff, List.forall₂_same]
  exact fun column _ => column.lexes

theorem lexes_entryValues {row : String} (hrow : Lexes row [word row]) (ne : columns ≠ []) :
    Lexes (entryValues row columns)
      (commas ((entryOperands columns row).map Operand.tokens)) := by
  have hpoint : Lexes "." [mark '.'] := by decide
  have hcolumn : ∀ column : Identifier,
      Lexes (row ++ "." ++ column.text) (Operand.column row column.text).tokens :=
    fun column => hrow.around hpoint column.lexes (by decide)
  have htext : entryValues row columns = ", ".intercalate
      ((primaryKey :: columns).map fun column => row ++ "." ++ column.text) := by
    rw [List.map_cons, String.intercalate_cons_of_ne_nil (by simpa using ne)]
    rfl
  have hoperands : (entryOperands columns row).map Operand.tokens =
      (primaryKey :: columns).map fun column => (Operand.column row column.text).tokens := by
    simp [entryOperands, columnNames]
  rw [htext, hoperands]
  refine Lexes.commas ?_
  rw [List.forall₂_map_left_iff, List.forall₂_map_right_iff, List.forall₂_same]
  exact fun column _ => hcolumn column

theorem lexes_index (table : Identifier) : Lexes (name table).text (nameTokens (name table).text) :=
  (name table).lexes

theorem lexes_columns (columns : List Identifier) :
    Lexes (commaSeparated columns) (commas (columns.map fun column => nameTokens column.text)) := by
  refine Lexes.commas ?_
  rw [List.forall₂_map_left_iff, List.forall₂_map_right_iff, List.forall₂_same]
  exact fun column _ => column.lexes

theorem lexes_insertInto (table : Identifier) :
    Lexes ("INSERT INTO " ++ (name table).text)
      (insertionOpening ++ nameTokens (name table).text) := by
  have hopening : Lexes "INSERT INTO " insertionOpening := by decide
  exact hopening.lone_append (lexes_index table) (by decide)

theorem lexes_bracket : Lexes "(" [mark '('] := by decide

theorem lexes_semicolon : Lexes "); " [mark ')', mark ';'] := by decide

theorem lexes_addEntry (table : Identifier) (ne : columns ≠ []) :
    Lexes (addEntry (name table) columns) ((addition table columns).tokens ++ [mark ';']) := by
  have hvalues : Lexes ") VALUES (" (mark ')' :: valuesOpening) := by decide
  have hnew : Lexes "new" [word "new"] := by decide
  have hplaces := (lexes_insertInto table).around lexes_bracket (lexes_entryColumns ne)
    (by decide)
  have hboth := hplaces.around hvalues (lexes_entryValues hnew ne) (by decide)
  have hall := hboth.append_lone lexes_semicolon (by decide)
  have htokens : (addition table columns).tokens ++ [mark ';'] =
      insertionOpening ++ nameTokens (name table).text ++ [mark '('] ++
        commas (("rowid" :: columnNames columns).map nameTokens) ++ mark ')' :: valuesOpening ++
        commas ((entryOperands columns "new").map Operand.tokens) ++ [mark ')', mark ';'] := by
    simp [Insertion.tokens, addition, nameTokens]
  rewrite [htokens]
  unfold addEntry
  exact hall

theorem lexes_removeEntry (table : Identifier) (ne : columns ≠ []) :
    Lexes (removeEntry (name table) columns) ((withdrawal table columns).tokens ++ [mark ';']) := by
  have hvalues : Lexes ") VALUES ('delete', "
      (mark ')' :: (valuesOpening ++ [Token.literal "delete", mark ','])) := by decide
  have hold : Lexes "old" [word "old"] := by decide
  have hcomma : Lexes ", " [mark ','] := by decide
  have hindex := (lexes_insertInto table).around lexes_bracket (lexes_index table)
    (by decide)
  have hplaces := hindex.around hcomma (lexes_entryColumns ne) (by decide)
  have hboth := hplaces.around hvalues (lexes_entryValues hold ne) (by decide)
  have hall := hboth.append_lone lexes_semicolon (by decide)
  have hnames : commas (((name table).text :: "rowid" :: columnNames columns).map nameTokens) =
      nameTokens (name table).text ++
        mark ',' :: commas (("rowid" :: columnNames columns).map nameTokens) :=
    commas_cons (by simp)
  have hdelete : commas ((.literal "delete" :: entryOperands columns "old").map Operand.tokens) =
      [Token.literal "delete"] ++
        mark ',' :: commas ((entryOperands columns "old").map Operand.tokens) :=
    commas_cons (by simp [entryOperands])
  have htokens : (withdrawal table columns).tokens ++ [mark ';'] =
      insertionOpening ++ nameTokens (name table).text ++ [mark '('] ++
        nameTokens (name table).text ++ [mark ','] ++
        commas (("rowid" :: columnNames columns).map nameTokens) ++
        mark ')' :: (valuesOpening ++ [Token.literal "delete", mark ',']) ++
        commas ((entryOperands columns "old").map Operand.tokens) ++ [mark ')', mark ';'] := by
    simp only [Insertion.tokens, withdrawal, hnames, hdelete]
    simp [nameTokens]
  rewrite [htokens]
  unfold removeEntry
  exact hall

theorem lexes_refill (table : Identifier) :
    Lexes ("INSERT INTO " ++ (name table).text ++ "(" ++ (name table).text ++
      ") VALUES ('rebuild')") (refilling table).tokens := by
  have hvalues : Lexes ") VALUES ('rebuild')"
      (mark ')' :: (valuesOpening ++ [Token.literal "rebuild", mark ')'])) := by decide
  have hindex := (lexes_insertInto table).around lexes_bracket (lexes_index table)
    (by decide)
  have hall := hindex.append_lone hvalues (by decide)
  have htokens : (refilling table).tokens = insertionOpening ++ nameTokens (name table).text ++
      [mark '('] ++ nameTokens (name table).text ++
      mark ')' :: (valuesOpening ++ [Token.literal "rebuild", mark ')']) := by
    simp [Insertion.tokens, refilling, nameTokens, commas, Operand.tokens]
  rewrite [htokens]
  exact hall

theorem lexes_createTrigger (table : Identifier) {ending event body : String}
    {insertions : List Insertion} (chars : ending.toList.all isNameChar = true)
    (hevent : Lexes event [word event])
    (hbody : Lexes body ((insertions.map Insertion.tokens).flatMap (· ++ [mark ';'])))
    (lone : body.toList.getLast?.all isLone = true) :
    Lexes (createTrigger table ending event body)
      (trigger table ending event insertions).tokens := by
  have hopening : Lexes "CREATE TRIGGER IF NOT EXISTS " triggerOpening := by decide
  have hafter : Lexes " AFTER " [word "AFTER"] := by decide
  have hon : Lexes " ON " [word "ON"] := by decide
  have hbegin : Lexes " BEGIN " [word "BEGIN"] := by decide
  have hend : Lexes "END" [word "END"] := by decide
  have hname := hopening.lone_append ((name table).extend ending chars).lexes (by decide)
  have hhead := (hname.around hafter hevent (by decide)).around hon table.lexes
    (by decide)
  have hall := hhead.around hbegin (hbody.lone_append hend lone) (by decide)
  have hassoc : ∀ a b c d e f g h i j : String, a ++ b ++ c ++ d ++ e ++ f ++ g ++ h ++ i ++ j =
      a ++ (b ++ c) ++ d ++ e ++ f ++ g ++ h ++ (i ++ j) := by
    intros
    simp only [String.append_assoc]
  have htokens : (trigger table ending event insertions).tokens = triggerOpening ++
      [word ((name table).extend ending chars).text] ++ [word "AFTER"] ++ [word event] ++
      [word "ON"] ++ [word table.text] ++ [word "BEGIN"] ++
      ((insertions.map Insertion.tokens).flatMap (· ++ [mark ';']) ++ [word "END"]) := by
    simp [Trigger.tokens, trigger, Identifier.extend]
  rewrite [htokens]
  unfold createTrigger
  rewrite [hassoc]
  exact hall

theorem lexes_createIndex (table : Identifier) (ne : columns ≠ []) :
    Lexes (createIndex table columns) (declaration table columns).tokens := by
  have hopening : Lexes "CREATE VIRTUAL TABLE IF NOT EXISTS " declarationOpening := by
    decide
  have husing : Lexes " USING fts5(" membersOpening := by decide
  have hcontent : Lexes ", content=" [mark ',', word "content", mark '='] := by decide
  have hrowid : Lexes ", content_rowid=" [mark ',', word "content_rowid", mark '='] := by
    decide
  have hclosing : Lexes ")" [mark ')'] := by decide
  have hname := hopening.lone_append (lexes_index table) (by decide)
  have hcolumns := hname.around husing (lexes_columns columns) (by decide)
  have htable := hcolumns.around hcontent (lexes_plain table.quote_notMem) (by decide)
  have hkey := htable.around hrowid (lexes_plain primaryKey.quote_notMem) (by decide)
  have hall := hkey.append_lone hclosing (by decide)
  -- the quotes belong to the text between the names
  have hquotes : ", content='" = ", content=" ++ "'" ∧
      "', content_rowid='" = "'" ++ ", content_rowid=" ++ "'" ∧ "')" = "'" ++ ")" := by
    decide
  have hassoc : ∀ a b c d e f g h i q : String,
      a ++ b ++ c ++ d ++ (e ++ q) ++ f ++ (q ++ g ++ q) ++ h ++ (q ++ i) =
        a ++ b ++ c ++ d ++ e ++ (q ++ f ++ q) ++ g ++ (q ++ h ++ q) ++ i := by
    intros
    simp only [String.append_assoc]
  have htokens : (declaration table columns).tokens =
      declarationOpening ++ nameTokens (name table).text ++ membersOpening ++
        commas (columns.map fun column => nameTokens column.text) ++
        [mark ',', word "content", mark '='] ++ [Token.literal table.text] ++
        [mark ',', word "content_rowid", mark '='] ++ [Token.literal primaryKey.text] ++
        [mark ')'] := by
    have hmembers : (declaration table columns).members.map Declaration.memberTokens =
        (columns.map fun column => nameTokens column.text) ++
          [[word "content", mark '=', Token.literal table.text],
            [word "content_rowid", mark '=', Token.literal primaryKey.text]] := by
      simp [declaration, Declaration.serving, Declaration.members, Declaration.memberTokens,
        columnNames, nameTokens, Function.comp_def]
    rw [Declaration.tokens, hmembers, commas_append (by simpa using ne) (by simp)]
    simp [declaration, Declaration.serving, nameTokens, commas]
  rewrite [htokens]
  unfold createIndex
  rewrite [hquotes.1, hquotes.2.1, hquotes.2.2, hassoc]
  exact hall

def commands (table : Identifier) (columns : List Identifier) : List Command :=
  .declare (declaration table columns) :: (triggers table columns).map .attach ++
    [.insert (refilling table)]

theorem name_last (table : Identifier) : (name table).text.toList.getLast? = some 's' := by
  rw [name, Identifier.extend, String.toList_append, List.getLast?_append]
  rfl

theorem name_ne (table : Identifier) {s : String} (h : s.toList.getLast? ≠ some 's') :
    (name table).text ≠ s := by
  rintro rfl
  exact h (name_last table)

theorem lone_entry (s : String) : (s ++ "); ").toList.getLast?.all isLone = true := by
  rw [String.toList_append, List.getLast?_append]
  rfl

theorem lone_entries (s t : String) : (s ++ (t ++ "); ")).toList.getLast?.all isLone = true := by
  rewrite [← String.append_assoc]
  exact lone_entry _

/-- Every statement of an index is read. -/
theorem read_creation (table : Identifier) (ne : columns ≠ []) :
    (creation table columns).map (fun statement => readCommand statement.sql) =
      (commands table columns).map some := by
  have hadd : Lexes (addEntry (name table) columns)
      (([addition table columns].map Insertion.tokens).flatMap (· ++ [mark ';'])) := by
    simpa using lexes_addEntry table ne
  have hremove : Lexes (removeEntry (name table) columns)
      (([withdrawal table columns].map Insertion.tokens).flatMap (· ++ [mark ';'])) := by
    simpa using lexes_removeEntry table ne
  have hboth : Lexes (removeEntry (name table) columns ++ addEntry (name table) columns)
      (([withdrawal table columns, addition table columns].map Insertion.tokens).flatMap
        (· ++ [mark ';'])) := by
    simpa using hremove.lone_append hadd (lone_entry _)
  have haddition : (addition table columns).IsSome ∧ (addition table columns).target ≠ "END" :=
    ⟨by simp [Insertion.IsSome, addition, entryOperands], name_ne table (by decide)⟩
  have hwithdrawal : (withdrawal table columns).IsSome ∧
      (withdrawal table columns).target ≠ "END" :=
    ⟨by simp [Insertion.IsSome, withdrawal], name_ne table (by decide)⟩
  have hindex : readCommand (createIndex table columns) =
      some (.declare (declaration table columns)) :=
    readCommand_declaration (lexes_createIndex table ne)
      (by simpa [declaration, Declaration.serving, columnNames] using ne)
  have hinserted : readCommand (createTrigger table "_ai" "INSERT"
      (addEntry (name table) columns)) =
      some (.attach (trigger table "_ai" "INSERT" [addition table columns])) :=
    readCommand_trigger (lexes_createTrigger table (by decide) (by decide) hadd
      (lone_entry _)) (by simpa [trigger] using haddition)
  have hdeleted : readCommand (createTrigger table "_ad" "DELETE"
      (removeEntry (name table) columns)) =
      some (.attach (trigger table "_ad" "DELETE" [withdrawal table columns])) :=
    readCommand_trigger (lexes_createTrigger table (by decide) (by decide) hremove
      (lone_entry _)) (by simpa [trigger] using hwithdrawal)
  have hupdated : readCommand (createTrigger table "_au" "UPDATE"
      (removeEntry (name table) columns ++ addEntry (name table) columns)) =
      some (.attach (trigger table "_au" "UPDATE"
        [withdrawal table columns, addition table columns])) :=
    readCommand_trigger (lexes_createTrigger table (by decide) (by decide) hboth
      (lone_entries _ _)) (by simpa [trigger] using ⟨hwithdrawal, haddition⟩)
  have hrefill := readCommand_insertion (lexes_refill table)
    ⟨List.cons_ne_nil _ _, List.cons_ne_nil _ _⟩
  simp only [creation, commands, triggers, List.map_cons, List.map_nil, List.cons_append,
    List.nil_append, hindex, hinserted, hdeleted, hupdated, hrefill]

theorem columnsOf_toValue (ne : columns ≠ []) :
    columnsOf (columns.map Identifier.toValue) = .ok columns := by
  rw [columnsOf, if_neg (by simpa using ne), Identifier.ofValues_eq_ok]

theorem creationOf_toValue (table : Identifier) (ne : columns ≠ []) :
    creationOf table.toValue (columns.map Identifier.toValue) = .ok (creation table columns) :=
  Outcome.bind_eq_ok.2 ⟨table, Identifier.ofValue_eq_ok.2 rfl,
    Outcome.bind_eq_ok.2 ⟨columns, columnsOf_toValue ne, rfl⟩⟩

end SearchIndex

end TableRecords
