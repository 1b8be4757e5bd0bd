import Mathlib
import TableRecords.Proofs.Search.Hits
import TableRecords.Table.Search

/-! # Targets of statements

A reader takes from the text of a statement which tables it creates, drops or writes: the one that
is named after the words it begins with, and for a trigger those that its body writes besides the
one it is set on. A text is one statement; what goes on after it a store refuses as a whole. Every
statement that is built for a table is read, and no other table is found in it than that one and
the one of its index.
-/

namespace TableRecords

open Token (mark word)

/-- The tokens of a text. What is left open at its end is none. -/
def completeTokens (sql : String) : List Token := (lexFrom .between (sql.toList ++ [' '])).1

/-- What begins a statement that creates, drops or writes the table named next. -/
def writingHeads : List (List Token) :=
  [insertionOpening, [word "UPDATE"], [word "DELETE", word "FROM"],
    [word "CREATE", word "TABLE", word "IF", word "NOT", word "EXISTS"], declarationOpening,
    [word "DROP", word "TABLE", word "IF", word "EXISTS"]]

def harmlessHeads : List (List Token) :=
  [[word "SELECT"], [word "PRAGMA", word "table_info"], [word "DROP", word "TRIGGER"],
    [word "BEGIN"], [word "COMMIT"], [word "ROLLBACK"]]

def nameAfter (tokens head : List Token) : Option String :=
  (skip head tokens >>= takeWord).map Prod.fst

/-- The table that a trigger is set on and those that its body writes. -/
def Trigger.targets (trigger : Trigger) : List String :=
  trigger.table :: trigger.body.map (·.target)

def readTargets (tokens : List Token) : Option (List String) :=
  ((readTrigger tokens).map Trigger.targets) <|>
    ((writingHeads.findSome? (nameAfter tokens)).map ([·])) <|>
    if harmlessHeads.any (·.isPrefixOf tokens) then some [] else none

/-- The tables that a statement creates, drops or writes; none if it cannot be told. -/
def Statement.targets? (statement : Statement) : Option (List String) :=
  readTargets (completeTokens statement.sql)

theorem Lexes.complete {sql : String} {tokens : List Token} (h : Lexes sql tokens) :
    completeTokens sql = tokens := by
  have hspace : Lexes " " [] := by decide
  have hlast : (sql ++ " ").toList.getLast?.all isLone = true := by
    rw [String.toList_append, List.getLast?_append]
    rfl
  have htokens := (h.append_lone hspace rfl).lexFrom_append hlast []
  rw [List.append_nil, List.append_nil, String.toList_append] at htokens
  simpa [completeTokens, lexFrom] using htokens

def Begins (sql : String) (tokens : List Token) : Prop :=
  ∀ rest, tokens <+: completeTokens (sql ++ rest)

namespace Begins

variable {sql : String} {tokens : List Token}

theorem of_lexes (h : Lexes sql tokens) (lone : sql.toList.getLast?.all isLone = true) :
    Begins sql tokens := by
  intro rest
  rw [completeTokens, String.toList_append, List.append_assoc, h.lexFrom_append lone]
  exact List.prefix_append _ _

theorem append (h : Begins sql tokens) (more : String) : Begins (sql ++ more) tokens := by
  intro rest
  rw [String.append_assoc]
  exact h (more ++ rest)

theorem complete (h : Begins sql tokens) : tokens <+: completeTokens sql := by
  have hrest := h ""
  rwa [String.append_empty] at hrest

theorem mono {fewer : List Token} (h : Begins sql tokens) (hf : fewer <+: tokens) :
    Begins sql fewer := fun rest => hf.trans (h rest)

theorem named {head between : String} (h : Lexes head tokens)
    (lone : head.toList.getLast?.all isLone = true) (name : Identifier) {more : List Token}
    (hb : Lexes between more) (hlone : standsAlone between = true) :
    Begins (head ++ name.text ++ between) (tokens ++ [word name.text]) := by
  obtain ⟨hhead, hlast⟩ := Bool.and_eq_true_iff.1 hlone
  have hfirst : between.toList.head?.all isLone = true := by
    cases hf : between.toList.head? with
    | none => rfl
    | some c => simpa [hf] using hhead
  have hall := (h.lone_append name.lexes lone).append_lone hb hfirst
  refine (of_lexes hall ?_).mono (List.prefix_append _ _)
  rw [String.toList_append, List.getLast?_append]
  cases hl : between.toList.getLast? with
  | none => simp [hl] at hlast
  | some c => simpa [hl] using hlast

end Begins

namespace Statement

variable {statement : Statement}

theorem targets_of_writing (head : List Token) (hm : head ∈ writingHeads) {name : String}
    (h : head ++ [word name] <+: completeTokens statement.sql) :
    statement.targets? = some [name] := by
  obtain ⟨more, hmore⟩ := h
  rw [targets?, ← hmore, List.append_assoc]
  simp only [writingHeads, List.mem_cons, List.not_mem_nil, or_false] at hm
  rcases hm with rfl | rfl | rfl | rfl | rfl | rfl <;> rfl

theorem targets_of_harmless (head : List Token) (hm : head ∈ harmlessHeads)
    (h : head <+: completeTokens statement.sql) : statement.targets? = some [] := by
  obtain ⟨more, hmore⟩ := h
  rw [targets?, ← hmore]
  simp only [harmlessHeads, List.mem_cons, List.not_mem_nil, or_false] at hm
  rcases hm with rfl | rfl | rfl | rfl | rfl | rfl <;> rfl

end Statement

theorem eq_append_of_skip {head tokens rest : List Token} (h : skip head tokens = some rest) :
    tokens = head ++ rest := by
  induction head generalizing tokens with
  | nil =>
      cases h
      rfl
  | cons expected head ih =>
      cases tokens with
      | nil => cases h
      | cons token tokens =>
          rw [skip] at h
          split at h
          · rename_i heq
            rw [heq, List.cons_append, ih h]
          · cases h

theorem eq_cons_of_takeWord {tokens rest : List Token} {s : String}
    (h : takeWord tokens = some (s, rest)) : tokens = word s :: rest := by
  unfold takeWord at h
  split at h
  · cases h
    rfl
  · cases h

/-- The tables that a command creates, drops or writes. -/
def Command.targets : Command → List String
  | declare declaration => [declaration.name]
  | attach trigger => trigger.targets
  | insert insertion => [insertion.target]

theorem readDeclaration_named {tokens : List Token} {declaration : Declaration}
    (h : readDeclaration tokens = some declaration) :
    declarationOpening ++ [word declaration.name] <+: tokens := by
  simp only [readDeclaration, Option.bind_eq_bind, Option.bind_eq_some_iff, Prod.exists] at h
  obtain ⟨rest, hskip, name, more, hname, h⟩ := h
  obtain ⟨_, _, _, _, _, _, _, h⟩ := h
  cases h
  rw [eq_append_of_skip hskip, eq_cons_of_takeWord hname]
  exact (List.prefix_append_right_inj _).2 (List.prefix_append [_] more)

theorem readInsertion_named {tokens : List Token} {insertion : Insertion}
    (h : readInsertion tokens = some insertion) :
    insertionOpening ++ [word insertion.target] <+: tokens := by
  simp only [readInsertion, Option.bind_eq_bind, Option.bind_eq_some_iff, Prod.exists] at h
  obtain ⟨rest, hskip, name, more, hname, h⟩ := h
  obtain ⟨_, _, _, _, _, _, _, _, _, _, _, _, h⟩ := h
  cases h
  rw [eq_append_of_skip hskip, eq_cons_of_takeWord hname]
  exact (List.prefix_append_right_inj _).2 (List.prefix_append [_] more)

theorem Statement.targets_of_command {statement : Statement} {command : Command}
    (h : readCommand statement.sql = some command) : statement.targets? = some command.targets := by
  simp only [readCommand, Option.bind_eq_bind, Option.bind_eq_some_iff] at h
  obtain ⟨tokens, htokens, h⟩ := h
  have hcomplete : completeTokens statement.sql = tokens := Lexes.complete htokens
  rcases (Option.orElse_eq_some _ _ _).1 h with h | ⟨-, h⟩
  · obtain ⟨declaration, hread, rfl⟩ := Option.map_eq_some_iff.1 h
    exact targets_of_writing declarationOpening (by decide)
      (hcomplete ▸ readDeclaration_named hread)
  · rcases (Option.orElse_eq_some _ _ _).1 h with h | ⟨-, h⟩
    · obtain ⟨trigger, hread, rfl⟩ := Option.map_eq_some_iff.1 h
      rw [targets?, hcomplete, readTargets, hread]
      rfl
    · obtain ⟨insertion, hread, rfl⟩ := Option.map_eq_some_iff.1 h
      exact targets_of_writing insertionOpening (by decide)
        (hcomplete ▸ readInsertion_named hread)

/-! ## Built statements -/

namespace Statement

variable {table id : Value} {conditions : Pairs} {statement : Statement}

/-- The table that a builder was given is the one that its statement creates or writes. -/
def Writes (table : Value) (statement : Statement) : Prop :=
  ∃ name, tableName table = .ok name ∧ statement.targets? = some [name.text]

theorem writes_createTable {schema : Option Pairs} (h : createTable table schema = .ok statement) :
    Writes table statement := by
  obtain ⟨name, hname, h⟩ := Outcome.bind_eq_ok.1 h
  obtain ⟨schema, _, h⟩ := Outcome.bind_eq_ok.1 h
  obtain ⟨definitions, _, h⟩ := Outcome.bind_eq_ok.1 h
  cases h
  have hhead : Lexes "CREATE TABLE IF NOT EXISTS "
      [word "CREATE", word "TABLE", word "IF", word "NOT", word "EXISTS"] := by decide
  have hbracket : Lexes " (" [mark '('] := by decide
  have hbegins := Begins.named hhead (by decide) name hbracket (by decide)
  exact ⟨name, hname, targets_of_writing _ (by decide) ((hbegins.append _).append _).complete⟩

theorem writes_insert {attrs : Pairs} (h : insert table attrs = .ok statement) :
    Writes table statement := by
  have hhead : Lexes "INSERT INTO " insertionOpening := by decide
  obtain ⟨name, hname, h⟩ := Outcome.bind_eq_ok.1 h
  split at h
  · cases h
    have hdefault : Lexes " DEFAULT VALUES" [word "DEFAULT", word "VALUES"] := by decide
    have htokens := ((hhead.lone_append name.lexes (by decide)).append_lone hdefault rfl).complete
    exact ⟨name, hname, targets_of_writing _ (by decide) (htokens ▸ List.prefix_append _ _)⟩
  · obtain ⟨assignments, _, h⟩ := Outcome.bind_eq_ok.1 h
    cases h
    have hbracket : Lexes " (" [mark '('] := by decide
    have hbegins := Begins.named hhead (by decide) name hbracket (by decide)
    exact ⟨name, hname, targets_of_writing _ (by decide)
      ((((hbegins.append _).append _).append _).append _).complete⟩

theorem begins_update (name : Identifier) :
    Begins ("UPDATE " ++ name.text ++ " SET ") [word "UPDATE", word name.text] := by
  have hhead : Lexes "UPDATE " [word "UPDATE"] := by decide
  have hset : Lexes " SET " [word "SET"] := by decide
  exact Begins.named hhead (by decide) name hset (by decide)

theorem writes_update {attrs : Option Pairs} (h : update table attrs conditions = .ok statement) :
    Writes table statement := by
  obtain ⟨name, hname, h⟩ := Outcome.bind_eq_ok.1 h
  obtain ⟨assignments, _, h⟩ := Outcome.bind_eq_ok.1 h
  obtain ⟨conditions, _, h⟩ := Outcome.bind_eq_ok.1 h
  cases h
  have hbegins := ((begins_update name).append (Assignment.setClause assignments)).append
    (Condition.whereClause conditions)
  exact ⟨name, hname, targets_of_writing [word "UPDATE"] (by decide) hbegins.complete⟩

theorem writes_updateById {attrs : Option Pairs} (h : updateById table attrs id = .ok statement) :
    Writes table statement := by
  obtain ⟨name, hname, h⟩ := Outcome.bind_eq_ok.1 h
  obtain ⟨assignments, _, h⟩ := Outcome.bind_eq_ok.1 h
  cases h
  have hbegins := ((((begins_update name).append (Assignment.setClause assignments)).append
    " WHERE ").append primaryKey.text).append " = ?"
  exact ⟨name, hname, targets_of_writing [word "UPDATE"] (by decide) hbegins.complete⟩

theorem lexes_delete : Lexes "DELETE FROM " [word "DELETE", word "FROM"] := by decide

theorem begins_deleteWhere (name : Identifier) :
    Begins ("DELETE FROM " ++ name.text ++ " WHERE ")
      [word "DELETE", word "FROM", word name.text] := by
  have hwhere : Lexes " WHERE " [word "WHERE"] := by decide
  exact Begins.named lexes_delete (by decide) name hwhere (by decide)

theorem writes_delete (h : delete table conditions = .ok statement) : Writes table statement := by
  obtain ⟨name, hname, h⟩ := Outcome.bind_eq_ok.1 h
  obtain ⟨conditions, _, h⟩ := Outcome.bind_eq_ok.1 h
  cases h
  refine ⟨name, hname, targets_of_writing [word "DELETE", word "FROM"] (by decide) ?_⟩
  cases conditions with
  | nil =>
      have htokens := (lexes_delete.lone_append name.lexes (by decide)).complete
      show _ <+: completeTokens ("DELETE FROM " ++ name.text ++ "")
      rw [String.append_empty, htokens]
  | cons first rest =>
      have hbegins := (begins_deleteWhere name).append (Condition.joined (first :: rest))
      rw [String.append_assoc] at hbegins
      exact hbegins.complete

theorem writes_deleteById (h : deleteById table id = .ok statement) : Writes table statement := by
  obtain ⟨name, hname, h⟩ := Outcome.bind_eq_ok.1 h
  cases h
  have hbegins := ((begins_deleteWhere name).append primaryKey.text).append " = ?"
  exact ⟨name, hname,
    targets_of_writing [word "DELETE", word "FROM"] (by decide) hbegins.complete⟩

theorem begins_select : Begins "SELECT " [word "SELECT"] :=
  .of_lexes (by decide) (by decide)

theorem begins_selectAll : Begins "SELECT * FROM " [word "SELECT"] := begins_select.append "* FROM "

theorem begins_count : Begins "SELECT COUNT(*) FROM " [word "SELECT"] :=
  begins_select.append "COUNT(*) FROM "

theorem targets_of_select (h : Begins statement.sql [word "SELECT"]) :
    statement.targets? = some [] := targets_of_harmless _ (by decide) h.complete

theorem targets_select {columns : List Value} {limit : Option Value}
    (h : select table conditions columns limit = .ok statement) : statement.targets? = some [] := by
  obtain ⟨name, _, h⟩ := Outcome.bind_eq_ok.1 h
  obtain ⟨columns, _, h⟩ := Outcome.bind_eq_ok.1 h
  obtain ⟨conditions, _, h⟩ := Outcome.bind_eq_ok.1 h
  obtain ⟨limit, _, h⟩ := Outcome.bind_eq_ok.1 h
  cases h
  exact targets_of_select (((((begins_select.append _).append _).append _).append _).append _)

theorem targets_selectById (h : selectById table id = .ok statement) :
    statement.targets? = some [] := by
  obtain ⟨name, _, h⟩ := Outcome.bind_eq_ok.1 h
  cases h
  exact targets_of_select ((((begins_selectAll.append _).append _).append _).append _)

theorem targets_count (h : count table conditions = .ok statement) :
    statement.targets? = some [] := by
  obtain ⟨name, _, h⟩ := Outcome.bind_eq_ok.1 h
  obtain ⟨conditions, _, h⟩ := Outcome.bind_eq_ok.1 h
  cases h
  exact targets_of_select ((begins_count.append _).append _)

end Statement

theorem SearchQuery.targets_statement {table : Identifier} {limit : Value}
    {columns : List Identifier} {query : String} {options : SearchOptions} {statement : Statement}
    (h : SearchQuery.statement table.toValue (columns.map Identifier.toValue) query options limit =
      .ok statement) : statement.targets? = some [] := by
  obtain ⟨-, snippet, conditions, hsql, -⟩ := SearchQuery.statement_ok h
  obtain ⟨rest, htext⟩ :=
    SearchQuery.text_projection table columns query options snippet conditions
  have hbegins := ((Statement.begins_select.append (", ".intercalate
    (SearchQuery.projection (SearchIndex.name table) columns options snippet))).append
      " FROM ").append rest
  rewrite [← htext, ← hsql] at hbegins
  exact Statement.targets_of_select hbegins

theorem Table.targets_indexInfo (table : Table) : table.indexInfo.targets? = some [] := by
  have hhead : Lexes "PRAGMA table_info(" [word "PRAGMA", word "table_info", mark '('] := by
    decide
  have hbegins := ((Begins.of_lexes hhead (by decide)).append
    (SearchIndex.name table.name).text).append ")"
  exact Statement.targets_of_harmless [word "PRAGMA", word "table_info"] (by decide)
    ((List.prefix_append _ [mark '(']).trans hbegins.complete)

namespace SearchIndex

variable {table : Identifier} {columns : List Identifier} {statement : Statement}

/-- The removal of an index drops no table but the index. -/
theorem targets_removal (h : statement ∈ removal table) :
    statement.targets? = some [] ∨ statement.targets? = some [(name table).text] := by
  have htriggerHead : Lexes "DROP TRIGGER IF EXISTS "
      [word "DROP", word "TRIGGER", word "IF", word "EXISTS"] := by decide
  have htableHead : Lexes "DROP TABLE IF EXISTS "
      [word "DROP", word "TABLE", word "IF", word "EXISTS"] := by decide
  have htrigger : ∀ ending : String, Statement.targets?
      ⟨"DROP TRIGGER IF EXISTS " ++ (name table).text ++ ending, []⟩ = some [] := by
    intro ending
    have hbegins := ((Begins.of_lexes htriggerHead (by decide)).append (name table).text).append
      ending
    exact Statement.targets_of_harmless [word "DROP", word "TRIGGER"] (by decide)
      ((List.prefix_append _ [word "IF", word "EXISTS"]).trans hbegins.complete)
  have htable : Statement.targets? ⟨"DROP TABLE IF EXISTS " ++ (name table).text, []⟩ =
      some [(name table).text] := by
    have htokens := (htableHead.lone_append (name table).lexes (by decide)).complete
    refine Statement.targets_of_writing [word "DROP", word "TABLE", word "IF", word "EXISTS"]
      (by decide) ?_
    rw [htokens]
  simp only [removal, List.mem_cons, List.not_mem_nil, or_false] at h
  rcases h with rfl | rfl | rfl | rfl
  · exact .inl (htrigger "_ai")
  · exact .inl (htrigger "_ad")
  · exact .inl (htrigger "_au")
  · exact .inr htable

/-- The creation of an index creates and writes the index, and sets triggers on the table. -/
theorem targets_creation (ne : columns ≠ []) (h : statement ∈ creation table columns) :
    ∃ targets, statement.targets? = some targets ∧
      ∀ target ∈ targets, target = table.text ∨ target = (name table).text := by
  have hread : readCommand statement.sql ∈ (commands table columns).map some := by
    rw [← read_creation table ne]
    exact List.mem_map_of_mem h
  obtain ⟨command, hm, hcommand⟩ := List.mem_map.1 hread
  refine ⟨_, Statement.targets_of_command hcommand.symm, ?_⟩
  simp only [commands, triggers, List.map_cons, List.map_nil, List.cons_append, List.nil_append,
    List.mem_cons, List.not_mem_nil, or_false] at hm
  rcases hm with rfl | rfl | rfl | rfl | rfl
  all_goals simp [Command.targets, Trigger.targets, trigger, declaration, Declaration.serving,
    addition, withdrawal, refilling]

end SearchIndex

end TableRecords
