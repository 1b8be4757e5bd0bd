import Mathlib
import TableRecords.Proofs.Search.Declaration
import TableRecords.Proofs.Sql.Composition

/-! # Placeholders

A reader takes from the text of a statement what each of its placeholders stands for: the value of
a column, the key of a row, or the number of hits and where they begin. A question mark inside of a
literal is no placeholder. The parameters of a statement are the values that are meant for its
placeholders, in the same order.
-/

namespace TableRecords

open Token (mark word)

inductive Slot where
  | column (name : Value)
  | key (name : Value)
  | limit
  | offset

/-- What a placeholder stands for, by the tokens before it, last first. -/
def slotAfter? : List Token → Option Slot
  | mark '=' :: word name :: word "WHERE" :: _ => some (.key (.text name))
  | mark '=' :: word name :: _ => some (.column (.text name))
  | word "LIMIT" :: _ => some .limit
  | word "OFFSET" :: _ => some .offset
  | _ => none

def slotsFrom (before : List Token) : List Token → Option (List Slot)
  | [] => some []
  | token :: tokens =>
    if token = mark '?' then do
      let slot ← slotAfter? before
      let slots ← slotsFrom (token :: before) tokens
      pure (slot :: slots)
    else slotsFrom (token :: before) tokens

def readPlaceholder : List Token → Option Unit
  | [mark '?'] => some ()
  | _ => none

/-- The placeholders of an insertion stand for the columns that are listed, place by place. -/
def insertedSlots (tokens : List Token) : Option (List Slot) := do
  let tokens ← skip insertionOpening tokens
  let (_, tokens) ← takeWord tokens
  let tokens ← skip [mark '('] tokens
  let (names, tokens) ← readList readName tokens
  let tokens ← skip valuesOpening tokens
  let (values, tokens) ← readList readPlaceholder tokens
  guard (tokens = [] ∧ values.length = names.length)
  pure (names.map fun name => .column (.text name))

def readSlots (tokens : List Token) : Option (List Slot) :=
  slotsFrom [] tokens <|> insertedSlots tokens

/-- The parameters of a statement with what they are bound to. -/
def Statement.bindings? (statement : Statement) : Option (List (Slot × Value)) := do
  let slots ← tokens? statement.sql >>= readSlots
  guard (slots.length = statement.params.length)
  pure (slots.zip statement.params)

/-- A column that is assigned, with its value as it is bound. -/
def assigned (entry : Value × Value) : Slot × Value := (.column entry.1, bindable entry.2)

def keyed (id : Value) : Slot × Value := (.key primaryKey.toValue, id)

/-- The statements that builders return, with what is meant for their placeholders. -/
inductive Statement.Means : List (Slot × Value) → Statement → Prop
  | insert {table attrs s} (h : Statement.insert table attrs = .ok s) : Means (attrs.map assigned) s
  | update {table attrs conditions s}
      (h : Statement.update table (some attrs) conditions = .ok s) : Means (attrs.map assigned) s
  | updateById {table attrs id s} (h : Statement.updateById table (some attrs) id = .ok s) :
      Means (attrs.map assigned ++ [keyed id]) s
  | selectById {table id s} (h : Statement.selectById table id = .ok s) : Means [keyed id] s
  | deleteById {table id s} (h : Statement.deleteById table id = .ok s) : Means [keyed id] s
  | search {table columns query options limit s}
      (h : SearchQuery.statement table columns query options limit = .ok s) :
      Means [(.limit, limit), (.offset, .int options.offset.val)] s

def LexState.isInside : LexState → Bool
  | literal _ => true
  | _ => false

/-- A question mark becomes a token where the scanner sees it outside of literals, and the lexer is
inside of a literal when the scanner is. -/
theorem LexState.start_toggle (c : Char) :
    (start c).1.count (mark '?') = (toggle false [c]).1.count '?' ∧
      (start c).2.isInside = (toggle false [c]).2 := by
  unfold start
  split_ifs with hs hq hn
  · subst hs
    decide
  · subst hq
    decide
  · have hne : c ≠ '?' := by
      rintro rfl
      exact absurd hn (by decide)
    simp [toggle, hq, hne, isInside]
  · by_cases hc : c = '?'
    · subst hc
      decide
    · simp [toggle, hq, hc, isInside]

theorem LexState.advance_toggle (c : Char) (state : LexState) :
    (state.advance c).1.count (mark '?') = (toggle state.isInside [c]).1.count '?' ∧
      (state.advance c).2.isInside = (toggle state.isInside [c]).2 := by
  have hstart := start_toggle c
  cases state with
  | between => exact hstart
  | word cs =>
      rw [advance]
      split_ifs with hn
      · rw [start, if_neg, if_neg, if_pos hn] at hstart
        · exact hstart
        all_goals
          rintro rfl
          exact absurd hn (by decide)
      · simpa [isInside] using hstart
  | literal cs =>
      rw [advance]
      split_ifs with hq <;> simp [toggle, isInside, hq]
  | quote cs =>
      rw [advance]
      split_ifs with hq
      · simp [toggle, isInside, hq]
      · simpa [isInside] using hstart

theorem lexFrom_toggle (state : LexState) (cs : List Char) :
    (lexFrom state cs).1.count (mark '?') = (toggle state.isInside cs).1.count '?' ∧
      (lexFrom state cs).2.isInside = (toggle state.isInside cs).2 := by
  induction cs generalizing state with
  | nil => exact ⟨rfl, rfl⟩
  | cons c cs ih =>
      have hc := state.advance_toggle c
      have hrest := ih (state.advance c).2
      have hboth := toggle_append state.isInside [c] cs
      rw [List.singleton_append] at hboth
      rw [hc.2] at hrest
      rw [hboth]
      exact ⟨by simp [lexFrom, hc.1, hrest.1], hrest.2⟩

/-- The placeholders of a text are its question marks outside of literals. -/
theorem Lexes.count_outside {sql : String} {tokens : List Token} (h : Lexes sql tokens) :
    (outside sql).count '?' = tokens.count (mark '?') := by
  obtain ⟨last, hlast, rfl⟩ := Option.map_eq_some_iff.1 h
  have hnone : last.count (mark '?') = 0 := by
    unfold LexState.finish at hlast
    split at hlast <;> cases hlast <;> simp
  rw [outside, scan_eq_toggle, List.count_append, hnone, Nat.add_zero]
  exact ((lexFrom_toggle .between sql.toList).1).symm

/-- Text that ends outside of literals has tokens. -/
theorem exists_lexes {piece : String} (h : (toggle false piece.toList).2 = false) :
    ∃ tokens, Lexes piece tokens := by
  have hstate := (lexFrom_toggle .between piece.toList).2
  change _ = (toggle false piece.toList).2 at hstate
  rw [h] at hstate
  have hfinish : ∃ last, (lexFrom .between piece.toList).2.finish = some last := by
    generalize (lexFrom .between piece.toList).2 = state at hstate
    cases state with
    | between => exact ⟨_, rfl⟩
    | word cs => exact ⟨_, rfl⟩
    | literal cs => cases hstate
    | quote cs => exact ⟨_, rfl⟩
  obtain ⟨last, hlast⟩ := hfinish
  exact ⟨_, Option.map_eq_some_iff.2 ⟨last, hlast, rfl⟩⟩

theorem exists_lexes_silent {piece : String} (h : (toggle false piece.toList).2 = false)
    (hq : '?' ∉ (toggle false piece.toList).1) :
    ∃ tokens, Lexes piece tokens ∧ mark '?' ∉ tokens := by
  obtain ⟨tokens, htokens⟩ := exists_lexes h
  have hcount := htokens.count_outside
  rw [outside, scan_eq_toggle, List.count_eq_zero.2 hq] at hcount
  exact ⟨tokens, htokens, List.count_eq_zero.1 hcount.symm⟩

theorem Composed.exists_lexes {piece : String} (h : Composed piece) :
    ∃ tokens, Lexes piece tokens ∧ mark '?' ∉ tokens :=
  exists_lexes_silent h.inert.state h.question_notMem

/-! ## Reading placeholders -/

theorem slotsFrom_append (before tokens more : List Token) :
    slotsFrom before (tokens ++ more) = (slotsFrom before tokens).bind fun slots =>
      (slotsFrom (tokens.reverse ++ before) more).map (slots ++ ·) := by
  induction tokens generalizing before with
  | nil => simp [slotsFrom]
  | cons token tokens ih =>
      rw [List.cons_append, slotsFrom, slotsFrom]
      split
      · cases slotAfter? before with
        | none => rfl
        | some slot =>
            simp only [ih, Option.bind_eq_bind, Option.bind_some]
            cases slotsFrom (token :: before) tokens with
            | none => rfl
            | some slots =>
                cases hmore : slotsFrom (tokens.reverse ++ token :: before) more <;> simp [hmore]
      · simp [ih]

theorem slotsFrom_silent {tokens : List Token} (h : mark '?' ∉ tokens) (before : List Token) :
    slotsFrom before tokens = some [] := by
  induction tokens generalizing before with
  | nil => rfl
  | cons token tokens ih =>
      rw [List.mem_cons, not_or] at h
      rw [slotsFrom, if_neg (Ne.symm h.1)]
      exact ih h.2 _

theorem length_slotsFrom {before tokens : List Token} {slots : List Slot}
    (h : slotsFrom before tokens = some slots) : slots.length = tokens.count (mark '?') := by
  induction tokens generalizing before slots with
  | nil =>
      cases h
      rfl
  | cons token tokens ih =>
      rw [slotsFrom] at h
      split at h
      · rename_i heq
        simp only [Option.bind_eq_bind, Option.bind_eq_some_iff] at h
        obtain ⟨slot, -, more, hmore, h⟩ := h
        cases h
        simp [heq, ih hmore]
      · rename_i hne
        rw [ih h, List.count_cons_of_ne hne]

namespace Statement

/-- A statement has as many placeholders as parameters, and its parameters are bound like this. -/
def IsBound (bindings : List (Slot × Value)) (statement : Statement) : Prop :=
  (outside statement.sql).count '?' = statement.params.length ∧
    statement.bindings? = some bindings

variable {statement : Statement} {tokens : List Token} {bindings : List (Slot × Value)}

theorem bindings_of_readSlots (hlexes : Lexes statement.sql tokens)
    (hread : readSlots tokens = some (bindings.map Prod.fst))
    (hparams : statement.params = bindings.map Prod.snd) :
    statement.bindings? = some bindings := by
  have hzip : (bindings.map Prod.fst).zip (bindings.map Prod.snd) = bindings := by
    rw [← List.unzip_fst, ← List.unzip_snd]
    exact List.zip_unzip bindings
  unfold Lexes at hlexes
  simp [bindings?, hlexes, hread, hparams, hzip]

/-- Placeholders that are read one by one are all that there are. -/
theorem bound_of_slotsFrom (hlexes : Lexes statement.sql tokens)
    (hslots : slotsFrom [] tokens = some (bindings.map Prod.fst))
    (hparams : statement.params = bindings.map Prod.snd) :
    IsBound bindings statement := by
  have hread : readSlots tokens = some (bindings.map Prod.fst) := by
    rw [readSlots, hslots]
    rfl
  refine ⟨?_, bindings_of_readSlots hlexes hread hparams⟩
  rw [hlexes.count_outside, ← length_slotsFrom hslots, hparams, List.length_map, List.length_map]

open Assignment (setClause)

def assignmentTokens (assignment : Assignment) : List Token :=
  [word assignment.column.text, mark '=', mark '?']

theorem lexes_setClause (assignments : List Assignment) :
    Lexes (setClause assignments) (commas (assignments.map assignmentTokens)) := by
  have hset : Lexes " = ?" [mark '=', mark '?'] := by decide
  refine Lexes.commas ?_
  rw [List.forall₂_map_left_iff, List.forall₂_map_right_iff, List.forall₂_same]
  exact fun assignment _ => assignment.column.lexes.append_lone hset (by decide)

theorem lexes_updateHead (table : Identifier) (assignments : List Assignment) :
    Lexes ("UPDATE " ++ table.text ++ " SET " ++ setClause assignments)
      (word "UPDATE" :: word table.text :: word "SET" ::
        commas (assignments.map assignmentTokens)) := by
  have hupdate : Lexes "UPDATE " [word "UPDATE"] := by decide
  have hset : Lexes " SET " [word "SET"] := by decide
  exact (hupdate.lone_append table.lexes (by decide)).around hset (lexes_setClause assignments)
    (by decide)

theorem lexes_byId {head : String} {tokens : List Token} (h : Lexes head tokens) :
    Lexes (head ++ " WHERE " ++ primaryKey.text ++ " = ?")
      (tokens ++ [word "WHERE", word primaryKey.text, mark '=', mark '?']) := by
  have hwhere : Lexes " WHERE " [word "WHERE"] := by decide
  have hplaceholder : Lexes " = ?" [mark '=', mark '?'] := by decide
  simpa using (h.around hwhere primaryKey.lexes (by decide)).append_lone hplaceholder (by decide)

/-- The column that an assignment names is the one its placeholder stands for, unless the assignment
stood right behind `WHERE`. -/
theorem slotsFrom_assignment (assignment : Assignment) {before : List Token}
    (h : before.head? ≠ some (word "WHERE")) :
    slotsFrom before (assignmentTokens assignment) =
      some [.column assignment.column.toValue] := by
  have hslot : slotAfter? (mark '=' :: word assignment.column.text :: before) =
      some (.column assignment.column.toValue) := by
    unfold slotAfter?
    split <;> simp_all [Identifier.toValue]
  simp [assignmentTokens, slotsFrom, hslot]

theorem slotsFrom_assignments (assignments : List Assignment) {before : List Token}
    (h : before.head? ≠ some (word "WHERE")) :
    slotsFrom before (commas (assignments.map assignmentTokens)) =
      some (assignments.map fun a => .column a.column.toValue) := by
  induction assignments generalizing before with
  | nil => rfl
  | cons first rest ih =>
      cases rest with
      | nil => simpa [commas] using slotsFrom_assignment first h
      | cons second rest =>
          rw [List.map_cons, commas_cons (by simp), slotsFrom_append, slotsFrom_assignment first h]
          have hcomma : slotsFrom ((assignmentTokens first).reverse ++ before)
              (mark ',' :: commas ((second :: rest).map assignmentTokens)) =
              slotsFrom (mark ',' :: ((assignmentTokens first).reverse ++ before))
                (commas ((second :: rest).map assignmentTokens)) := rfl
          rw [Option.bind_some, hcomma, ih (by simp)]
          rfl

theorem assigned_ofPairs {attrs : Pairs} {assignments : List Assignment}
    (h : Assignment.ofPairs attrs = .ok assignments) :
    (attrs.map assigned).map Prod.fst = assignments.map (fun a => .column a.column.toValue) ∧
      (attrs.map assigned).map Prod.snd = Assignment.params assignments := by
  have hall := Outcome.mapM_eq_ok.1 h
  clear h
  induction hall with
  | nil => exact ⟨rfl, rfl⟩
  | cons hfirst _ ih =>
      obtain ⟨column, hcolumn, hfirst⟩ := Outcome.bind_eq_ok.1 hfirst
      cases hfirst
      rw [List.map_cons, List.map_cons, List.map_cons, List.map_cons, ih.1, ih.2, assigned,
        Identifier.ofValue_eq_ok.1 hcolumn]
      exact ⟨rfl, rfl⟩

theorem slotsFrom_update (table : Identifier) (assignments : List Assignment)
    (more : List Token) : slotsFrom [] (word "UPDATE" :: word table.text :: word "SET" ::
      (commas (assignments.map assignmentTokens) ++ more)) =
    (slotsFrom ((commas (assignments.map assignmentTokens)).reverse ++
      [word "SET", word table.text, word "UPDATE"]) more).map
        (assignments.map (fun a => .column a.column.toValue) ++ ·) := by
  change slotsFrom [word "SET", word table.text, word "UPDATE"] _ = _
  rw [slotsFrom_append, slotsFrom_assignments assignments (by simp)]
  rfl

theorem lone_whereClause (conditions : List Condition) :
    (Condition.whereClause conditions).toList.head?.all isLone = true := by
  unfold Condition.whereClause
  split
  · rfl
  · rw [String.toList_append, List.head?_append]
    rfl

theorem bound_update {table : Value} {attrs conditions : Pairs}
    (h : update table (some attrs) conditions = .ok statement) :
    IsBound (attrs.map assigned) statement := by
  obtain ⟨name, _, h⟩ := Outcome.bind_eq_ok.1 h
  obtain ⟨assignments, hassignments, h⟩ := Outcome.bind_eq_ok.1 h
  obtain ⟨conditions, _, h⟩ := Outcome.bind_eq_ok.1 h
  cases h
  obtain ⟨hslots, hparams⟩ := assigned_ofPairs hassignments
  obtain ⟨more, hmore, hsilent⟩ := (composed_whereClause conditions).exists_lexes
  have hlexes := (lexes_updateHead name assignments).append_lone hmore (lone_whereClause conditions)
  refine bound_of_slotsFrom hlexes ?_ hparams.symm
  refine (slotsFrom_update name assignments more).trans ?_
  rw [slotsFrom_silent hsilent, hslots, Option.map_some, List.append_nil]

theorem slotsFrom_byId (before : List Token) :
    slotsFrom before [word "WHERE", word primaryKey.text, mark '=', mark '?'] =
      some [.key primaryKey.toValue] := by
  simp [slotsFrom, slotAfter?, Identifier.toValue]

theorem bound_updateById {table id : Value} {attrs : Pairs}
    (h : updateById table (some attrs) id = .ok statement) :
    IsBound (attrs.map assigned ++ [keyed id]) statement := by
  obtain ⟨name, _, h⟩ := Outcome.bind_eq_ok.1 h
  obtain ⟨assignments, hassignments, h⟩ := Outcome.bind_eq_ok.1 h
  cases h
  obtain ⟨hslots, hparams⟩ := assigned_ofPairs hassignments
  have hlexes := lexes_byId (lexes_updateHead name assignments)
  refine bound_of_slotsFrom hlexes ?_ ?_
  · refine (slotsFrom_update name assignments _).trans ?_
    rw [slotsFrom_byId, List.map_append, hslots]
    rfl
  · rw [List.map_append, hparams]
    rfl

theorem bound_byId {head : String} {tokens : List Token} (id : Value) (h : Lexes head tokens)
    (silent : mark '?' ∉ tokens)
    (hs : statement = ⟨head ++ " WHERE " ++ primaryKey.text ++ " = ?", [id]⟩) :
    IsBound [keyed id] statement := by
  subst hs
  refine bound_of_slotsFrom (lexes_byId h) ?_ rfl
  rw [slotsFrom_append, slotsFrom_silent silent, Option.bind_some, slotsFrom_byId]
  rfl

theorem bound_selectById {table id : Value} (h : selectById table id = .ok statement) :
    IsBound [keyed id] statement := by
  obtain ⟨name, _, h⟩ := Outcome.bind_eq_ok.1 h
  have hselect : Lexes "SELECT * FROM " [word "SELECT", mark '*', word "FROM"] := by
    decide
  exact bound_byId id (hselect.lone_append name.lexes (by decide)) (by simp) (Except.ok.inj h).symm

theorem bound_deleteById {table id : Value} (h : deleteById table id = .ok statement) :
    IsBound [keyed id] statement := by
  obtain ⟨name, _, h⟩ := Outcome.bind_eq_ok.1 h
  have hdelete : Lexes "DELETE FROM " [word "DELETE", word "FROM"] := by decide
  exact bound_byId id (hdelete.lone_append name.lexes (by decide)) (by simp) (Except.ok.inj h).symm

theorem count_commas {token : Token} (h : token ≠ mark ',') (parts : List (List Token)) :
    (commas parts).count token = (parts.map (·.count token)).sum := by
  induction parts with
  | nil => rfl
  | cons first rest ih =>
      cases rest with
      | nil => simp [commas]
      | cons second rest =>
          rw [commas_cons (by simp), List.count_append, List.count_cons_of_ne h.symm, ih]
          rfl

def insertionTokens (table : String) (columns : List String) : List Token :=
  insertionOpening ++ word table :: mark '(' :: (commas (columns.map nameTokens) ++ mark ')' ::
    (valuesOpening ++ (commas (List.replicate columns.length [mark '?']) ++ [mark ')'])))

theorem lexes_insertion (table : Identifier) (assignments : List Assignment) :
    Lexes ("INSERT INTO " ++ table.text ++ " (" ++ commaSeparated (assignments.map (·.column)) ++
        ") VALUES (" ++ ", ".intercalate (assignments.map fun _ => "?") ++ ")")
      (insertionTokens table.text (assignments.map (·.column.text))) := by
  have hopening : Lexes "INSERT INTO " insertionOpening := by decide
  have hbracket : Lexes " (" [mark '('] := by decide
  have hvalues : Lexes ") VALUES (" (mark ')' :: valuesOpening) := by decide
  have hclosing : Lexes ")" [mark ')'] := by decide
  have hplaceholder : Lexes "?" [mark '?'] := by decide
  have hplaceholders : Lexes (", ".intercalate (assignments.map fun _ => "?"))
      (commas (assignments.map fun _ => [mark '?'])) := by
    refine Lexes.commas ?_
    rw [List.forall₂_map_left_iff, List.forall₂_map_right_iff, List.forall₂_same]
    exact fun _ _ => hplaceholder
  have htable := hopening.lone_append table.lexes (by decide)
  have hcolumns := htable.around hbracket
    (SearchIndex.lexes_columns (assignments.map (·.column))) (by decide)
  have hall := (hcolumns.around hvalues hplaceholders (by decide)).append_lone hclosing
    (by decide)
  have htokens : insertionTokens table.text (assignments.map (·.column.text)) =
      insertionOpening ++ [word table.text] ++ [mark '('] ++
        commas ((assignments.map (·.column)).map fun column => nameTokens column.text) ++
        mark ')' :: valuesOpening ++ commas (assignments.map fun _ => [mark '?']) ++
        [mark ')'] := by
    simp [insertionTokens, Function.comp_def, List.map_const']
  rw [htokens]
  exact hall

theorem insertedSlots_tokens (table : String) {columns : List String} (ne : columns ≠ []) :
    insertedSlots (insertionTokens table columns) =
      some (columns.map fun name => .column (.text name)) := by
  have hnames := readList_commas ne (fun s _ => readName_tokens s)
    (valuesOpening ++ (commas (List.replicate columns.length [mark '?']) ++ [mark ')']))
  have hunits : List.replicate columns.length () ≠ [] := by simpa using ne
  have hvalues : readList readPlaceholder
      (commas ((List.replicate columns.length ()).map fun _ => [mark '?']) ++ [mark ')']) =
        some (List.replicate columns.length (), []) :=
    readList_commas hunits
      (fun _ _ => ⟨rfl, by simp [IsPart, depthAfter, Token.depthAfter]⟩) []
  rw [List.map_replicate] at hvalues
  simp [insertedSlots, insertionTokens, skip_append, skip_cons, takeWord, hnames, hvalues]

theorem slotsFrom_insertion (table : String) {columns : List String} (ne : columns ≠ []) :
    slotsFrom [] (insertionTokens table columns) = none := by
  obtain ⟨more, hmore⟩ : ∃ more, commas (List.replicate columns.length [mark '?']) ++ [mark ')'] =
      mark '?' :: more := by
    obtain ⟨first, rest, rfl⟩ := List.exists_cons_of_ne_nil ne
    cases rest with
    | nil => exact ⟨_, rfl⟩
    | cons second rest =>
        rw [List.length_cons, List.replicate_succ, commas_cons (by simp)]
        exact ⟨_, rfl⟩
  have hsilent : mark '?' ∉ insertionOpening ++ word table :: mark '(' ::
      (commas (columns.map nameTokens) ++ [mark ')', word "VALUES", mark '(']) := by
    have hnames : (commas (columns.map nameTokens)).count (mark '?') = 0 := by
      simp [count_commas, nameTokens, Function.comp_def]
    simp [insertionOpening, List.count_eq_zero.1 hnames]
  have htokens : insertionTokens table columns = (insertionOpening ++ word table :: mark '(' ::
      (commas (columns.map nameTokens) ++ [mark ')', word "VALUES", mark '('])) ++
        mark '?' :: more := by
    rw [insertionTokens, hmore]
    simp [valuesOpening]
  rw [htokens, slotsFrom_append, slotsFrom_silent hsilent, Option.bind_some]
  simp [slotsFrom, slotAfter?]

theorem count_insertionTokens (table : String) (columns : List String) :
    (insertionTokens table columns).count (mark '?') = columns.length := by
  simp [insertionTokens, insertionOpening, valuesOpening, count_commas, nameTokens,
    Function.comp_def]

theorem bound_insert {table : Value} {attrs : Pairs} (h : insert table attrs = .ok statement) :
    IsBound (attrs.map assigned) statement := by
  obtain ⟨name, _, h⟩ := Outcome.bind_eq_ok.1 h
  split at h
  · rename_i hempty
    cases h
    rw [List.isEmpty_iff.1 hempty]
    have hopening : Lexes "INSERT INTO " insertionOpening := by decide
    have hdefault : Lexes " DEFAULT VALUES" [word "DEFAULT", word "VALUES"] := by decide
    have hlexes := (hopening.lone_append name.lexes (by decide)).append_lone hdefault (by decide)
    exact bound_of_slotsFrom hlexes (slotsFrom_silent (by simp [insertionOpening]) _) rfl
  · rename_i hsome
    obtain ⟨assignments, hassignments, h⟩ := Outcome.bind_eq_ok.1 h
    cases h
    have hne : assignments.map (·.column.text) ≠ [] := by
      rintro hnil
      rw [List.map_eq_nil_iff.1 hnil] at hassignments
      have hattrs := Outcome.mapM_eq_ok.1 hassignments
      cases hattrs
      exact hsome rfl
    obtain ⟨hslots, hparams⟩ := assigned_ofPairs hassignments
    have hlexes := lexes_insertion name assignments
    have hread : readSlots (insertionTokens name.text (assignments.map (·.column.text))) =
        some ((attrs.map assigned).map Prod.fst) := by
      rw [readSlots, slotsFrom_insertion name.text hne, insertedSlots_tokens name.text hne, hslots,
        List.map_map]
      rfl
    refine ⟨?_, bindings_of_readSlots hlexes hread hparams.symm⟩
    rw [hlexes.count_outside, count_insertionTokens, List.length_map, Assignment.params,
      List.length_map]

end Statement

namespace SearchQuery

theorem exists_lexes_ordered (table : Identifier) (columns : List Identifier) (query : String)
    (options : SearchOptions) (snippet : Option Int) (conditions : List Condition) :
    ∃ tokens, Lexes (opening table columns options snippet conditions ++ " MATCH '" ++
      escapeText (.text (matchText query options)) ++ "' ORDER BY " ++
        rankTerm (SearchIndex.name table)) tokens ∧ mark '?' ∉ tokens := by
  have hopening := composed_opening table columns options snippet conditions
  have hrank := composed_rankTerm (SearchIndex.name table)
  have hmatch : Passes false true " MATCH '" := by decide
  have horder : Passes true false "' ORDER BY " := by decide
  have hmatched := hopening.inert.append hmatch
  have hqueried := hmatched.append (passes_escapeText (.text (matchText query options)))
  have hordered := hqueried.append horder
  refine exists_lexes_silent (hordered.append hrank.inert).state ?_
  refine Composed.question_notMem_append hordered ?_ hrank.question_notMem
  refine Composed.question_notMem_append hqueried ?_ (by decide)
  refine Composed.question_notMem_append hmatched ?_ (by rw [toggle_escapeText]; decide)
  exact Composed.question_notMem_append hopening.inert hopening.question_notMem (by decide)

theorem bound_statement {table limit : Value} {columns : List Value} {query : String}
    {options : SearchOptions} {statement : Statement}
    (h : SearchQuery.statement table columns query options limit = .ok statement) :
    Statement.IsBound [(.limit, limit), (.offset, .int options.offset.val)] statement := by
  obtain ⟨name, names, snippet, conditions, hsql, hparams⟩ := exists_text h
  obtain ⟨tokens, htokens, hsilent⟩ :=
    exists_lexes_ordered name names query options snippet conditions
  have hlimit : Lexes " LIMIT ? OFFSET ?" [word "LIMIT", mark '?', word "OFFSET", mark '?'] := by
    decide
  have hlexes := htokens.append_lone hlimit (by decide)
  rw [← text_eq, ← hsql] at hlexes
  refine Statement.bound_of_slotsFrom hlexes ?_ hparams
  rw [slotsFrom_append, slotsFrom_silent hsilent, Option.bind_some]
  rfl

end SearchQuery

/-- A statement has one parameter for each of its placeholders, and each placeholder is bound to the
value that is meant for it. -/
theorem placeholders_bound {bindings : List (Slot × Value)} {statement : Statement}
    (h : statement.Means bindings) :
    (outside statement.sql).count '?' = statement.params.length ∧
      statement.bindings? = some bindings := by
  cases h with
  | insert h => exact Statement.bound_insert h
  | update h => exact Statement.bound_update h
  | updateById h => exact Statement.bound_updateById h
  | selectById h => exact Statement.bound_selectById h
  | deleteById h => exact Statement.bound_deleteById h
  | search h => exact SearchQuery.bound_statement h

theorem placeholders_bound_asking : ∃ statement,
    Statement.update (.text "notes") (some [(.text "title", .text "How?"), (.text "size", .int 7)])
      [(.text "title", .text "Why?")] = .ok statement ∧
    (outside statement.sql).count '?' = 2 ∧ statement.bindings? =
      some [(.column (.text "title"), .text "How?"), (.column (.text "size"), .int 7)] := by
  have hupdate : Statement.update (.text "notes")
      (some [(.text "title", .text "How?"), (.text "size", .int 7)])
      [(.text "title", .text "Why?")] =
        .ok ⟨"UPDATE notes SET title = ?, size = ? WHERE title = 'Why?'",
          [.text "How?", .int 7]⟩ := rfl
  exact ⟨_, hupdate, placeholders_bound (.update hupdate)⟩

end TableRecords
