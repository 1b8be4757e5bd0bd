import Mathlib
import TableRecords.Proofs.Search.Hits
import TableRecords.Proofs.Store.Atomicity
import TableRecords.Proofs.Store.Guarantees
import TableRecords.Proofs.Table.Changes

/-! # Indexing

What statements do to the columns of a search index, and what becomes of them when a table is made
searchable or is searched. A table remembers the columns that the index then has.
-/

namespace TableRecords

variable {σ δ : Type}

namespace SearchIndex

def info (table : Identifier) : Statement :=
  ⟨"PRAGMA table_info(" ++ (name table).text ++ ")", []⟩

def dropText (table : Identifier) : String := "DROP TABLE IF EXISTS " ++ (name table).text

/-- The statements that have to do with the index of a table. -/
inductive Concerns (table : Identifier) : Statement → Prop
  | info : Concerns table (info table)
  | removal {statement} (h : statement ∈ removal table) : Concerns table statement
  | creation {columns statement} (ne : columns ≠ []) (h : statement ∈ creation table columns) :
      Concerns table statement
  | search {statement rest} (h : statement.sql = "SELECT " ++ rest) : Concerns table statement

/-- The columns of an index after a statement: it is declared if there is none, or dropped, or
stays as it is. -/
def columnsAfter (table : Identifier) (columns : Option (List String)) (statement : Statement) :
    Option (List String) :=
  match readCommand statement.sql with
  | some (.declare declaration) =>
    if declaration.name = (name table).text then columns.or (some declaration.columns) else columns
  | some _ => columns
  | none => if statement.sql = dropText table then none else columns

theorem readCommand_eq_none {opening s : String} {tokens : List Token}
    (h : Lexes opening (.word s :: tokens)) (lone : opening.toList.getLast?.all isLone = true)
    (hs : s ≠ "CREATE" ∧ s ≠ "INSERT") (rest : String) : readCommand (opening ++ rest) = none := by
  have htokens := h.lexFrom_append lone rest.toList
  rw [← String.toList_append] at htokens
  have hcreate : Token.word s ≠ .word "CREATE" := fun hw => hs.1 (Token.word.inj hw)
  have hinsert : Token.word s ≠ .word "INSERT" := fun hw => hs.2 (Token.word.inj hw)
  have htext : tokens? (opening ++ rest) =
      (lexFrom .between (opening ++ rest).toList).2.finish.map
        ((.word s :: tokens ++ (lexFrom .between rest.toList).1) ++ ·) := by
    change Option.map _ _ = _
    rw [htokens]
  rw [readCommand, htext]
  cases (lexFrom .between (opening ++ rest).toList).2.finish with
  | none => rfl
  | some last =>
      simp [readDeclaration, readTrigger, readInsertion, declarationOpening, triggerOpening,
        insertionOpening, skip, hcreate, hinsert]

variable (table : Identifier) (columns : Option (List String))

theorem columnsAfter_of_read {statement : Statement} (h : readCommand statement.sql = none)
    (ne : statement.sql ≠ dropText table) : columnsAfter table columns statement = columns := by
  rw [columnsAfter, h, if_neg ne]

theorem columnsAfter_drop : columnsAfter table columns ⟨dropText table, []⟩ = none := by
  have hdrop : Lexes "DROP TABLE IF EXISTS "
      [.word "DROP", .word "TABLE", .word "IF", .word "EXISTS"] := by decide
  have hread : readCommand (dropText table) = none :=
    readCommand_eq_none hdrop (by decide) (by decide) (name table).text
  rw [columnsAfter, hread, if_pos rfl]

theorem columnsAfter_info : columnsAfter table columns (info table) = columns := by
  have hpragma : Lexes "PRAGMA table_info(" [.word "PRAGMA", .word "table_info", .mark '('] := by
    decide
  have hsql : (info table).sql = "PRAGMA table_info(" ++ ((name table).text ++ ")") := by
    unfold info
    exact String.append_assoc
  apply columnsAfter_of_read
  · rw [hsql]
    exact readCommand_eq_none hpragma (by decide) (by decide) _
  · rw [hsql]
    exact append_ne_append 1 (by decide) _ _

theorem columnsAfter_search {statement : Statement} {rest : String}
    (h : statement.sql = "SELECT " ++ rest) :
    columnsAfter table columns statement = columns := by
  have hselect : Lexes "SELECT " [.word "SELECT"] := by decide
  apply columnsAfter_of_read
  · rw [h]
    exact readCommand_eq_none hselect (by decide) (by decide) rest
  · rw [h]
    exact append_ne_append 1 (by decide) _ _

theorem columnsAfter_dropTrigger (ending : String) : columnsAfter table columns
    ⟨"DROP TRIGGER IF EXISTS " ++ (name table).text ++ ending, []⟩ = columns := by
  have hdrop : Lexes "DROP TRIGGER IF EXISTS "
      [.word "DROP", .word "TRIGGER", .word "IF", .word "EXISTS"] := by decide
  have hsql : "DROP TRIGGER IF EXISTS " ++ (name table).text ++ ending =
      "DROP TRIGGER IF EXISTS " ++ ((name table).text ++ ending) := String.append_assoc
  apply columnsAfter_of_read
  · show readCommand ("DROP TRIGGER IF EXISTS " ++ (name table).text ++ ending) = none
    rw [hsql]
    exact readCommand_eq_none hdrop (by decide) (by decide) _
  · show "DROP TRIGGER IF EXISTS " ++ (name table).text ++ ending ≠ dropText table
    rw [hsql]
    exact append_ne_append 7 (by decide) _ _

/-- After the removal there is no index. -/
theorem foldl_columnsAfter_removal :
    (removal table).foldl (columnsAfter table) columns = none := by
  have hdrop := columnsAfter_drop table columns
  unfold dropText at hdrop
  simp only [removal, List.foldl_cons, List.foldl_nil, columnsAfter_dropTrigger, hdrop]

/-- Where there was no index, the creation declares one with the columns given. -/
theorem foldl_columnsAfter_creation {columns : List Identifier} (ne : columns ≠ []) :
    (creation table columns).foldl (columnsAfter table) none = some (columnNames columns) := by
  have hread := read_creation table ne
  simp only [creation, commands, triggers, List.map_cons, List.map_nil, List.cons_append,
    List.nil_append, List.cons.injEq, and_true] at hread
  obtain ⟨hindex, hinsert, hdelete, hupdate, hrefill⟩ := hread
  simp only [creation, List.foldl_cons, List.foldl_nil, columnsAfter, hindex, hinsert, hdelete,
    hupdate, hrefill]
  exact if_pos rfl

end SearchIndex

/-! ## Stores that keep an index -/

/-- A store that keeps the index of a table, with its columns to return to while a transaction is
open, and tells them when it is asked. -/
structure Store.KeepsIndex (store : Store σ) (table : Identifier)
    (index : σ → Option (List String)) (saved : σ → Option (Option (List String))) : Prop where
  atomic : store.Atomic (SearchIndex.Concerns table) index saved (SearchIndex.columnsAfter table)
  reports : ∀ s reply s', store.send s (SearchIndex.info table) = (.ok reply, s') →
    reply.rows.map (·.get? (.text "name")) =
      ((index s).getD []).map fun column => some (.text column)
  distinct : ∀ s columns, index s = some columns → columns.Nodup

/-- A store that takes whatever is sent to give a table an index over columns, and rolls back. -/
structure Store.TakesIndex (store : Store σ) (table : Identifier) (columns : List Identifier) :
    Prop where
  info : ∀ s, ∃ reply t, store.send s (SearchIndex.info table) = (.ok reply, t)
  built : ∀ s, ∀ statement ∈ SearchIndex.removal table ++ SearchIndex.creation table columns,
    ∃ reply t, store.send s statement = (.ok reply, t)
  begun : ∀ s, store.inTransaction s = false →
    ∃ reply t, store.send s Database.beginStatement = (.ok reply, t)
  committed : ∀ s, store.inTransaction s = true →
    ∃ reply t, store.send s Database.commitStatement = (.ok reply, t)
  rolledBack : ∀ s, store.inTransaction s = true →
    ∃ reply t, store.send s Database.rollbackStatement = (.ok reply, t)

/-- How a transaction that has been begun is over. -/
inductive Store.Settled {τ α : Type} (contents : σ → τ) (saved : σ → Option τ) (s t : σ) :
    Except Fault α → Prop
  | committed {a} (hc : contents t = contents s) (hs : saved t = none) :
      Settled contents saved s t (.ok a)
  | returned {fault before} (hb : saved s = some before) (hc : contents t = before)
      (hs : saved t = none) : Settled contents saved s t (.error fault)
  | refused {fault} (hc : contents t = contents s) (hs : saved t = saved s) :
      Settled contents saved s t (.error fault)

namespace Store

variable {τ α : Type} {store : Store σ} {ordinary : Statement → Prop} {contents : σ → τ}
  {saved : σ → Option τ} {effect : τ → Statement → τ} {s t : σ} {sendings : List Sending}
  {before : τ}

theorem send_of_beside {δ : Type} {s s' : σ × δ} {statement : Statement}
    {outcome : Except Fault Reply} (h : (store.beside δ).send s statement = (outcome, s')) :
    store.send s.1 statement = (outcome, s'.1) :=
  congrArg (fun answer => (answer.1, answer.2.1)) h

theorem Atomic.beside (h : store.Atomic ordinary contents saved effect) (δ : Type) :
    (store.beside δ).Atomic ordinary (fun s => contents s.1) (fun s => saved s.1) effect where
  isOpen s := h.isOpen s.1
  refused _ _ _ _ hs := h.refused _ _ _ _ (send_of_beside hs)
  ordinary _ _ _ _ ho hs := h.ordinary _ _ _ _ ho (send_of_beside hs)
  begun _ _ _ hn hs := h.begun _ _ _ hn (send_of_beside hs)
  committed _ _ _ _ hb hs := h.committed _ _ _ _ hb (send_of_beside hs)
  rolledBack _ _ _ _ hb hs := h.rolledBack _ _ _ _ hb (send_of_beside hs)

theorem taken_of_beside {δ : Type} {s : σ × δ} {statement : Statement}
    (h : ∃ reply t, store.send s.1 statement = (.ok reply, t)) :
    ∃ reply t, (store.beside δ).send s statement = (.ok reply, t) := by
  obtain ⟨reply, t, hsend⟩ := h
  refine ⟨reply, (t, s.2), ?_⟩
  rw [Store.beside]
  simp only [hsend]

theorem TakesIndex.beside {table : Identifier} {columns : List Identifier}
    (h : store.TakesIndex table columns) (δ : Type) :
    (store.beside δ).TakesIndex table columns where
  info s := taken_of_beside (h.info s.1)
  built s statement hm := taken_of_beside (h.built s.1 statement hm)
  begun s hs := taken_of_beside (h.begun s.1 hs)
  committed s hs := taken_of_beside (h.committed s.1 hs)
  rolledBack s hs := taken_of_beside (h.rolledBack s.1 hs)

theorem KeepsIndex.beside {table : Identifier} {index : σ → Option (List String)}
    {saved : σ → Option (Option (List String))} (h : store.KeepsIndex table index saved)
    (δ : Type) :
    (store.beside δ).KeepsIndex table (fun s => index s.1) (fun s => saved s.1) where
  atomic := h.atomic.beside δ
  reports _ _ _ hs := h.reports _ _ _ (send_of_beside hs)
  distinct s := h.distinct s.1

theorem Settled.of_same {result : Except Fault α} {s₁ : σ}
    (h : Settled contents saved s₁ t result) (hc : contents s₁ = contents s)
    (hk : saved s₁ = saved s) : Settled contents saved s t result := by
  cases h with
  | committed hc' hs => exact .committed (hc'.trans hc) hs
  | returned hb hc' hs => exact .returned (hk.symm.trans hb) hc' hs
  | refused hc' hs => exact .refused (hc'.trans hc) (hs.trans hk)

theorem Settled.of_beside {δ : Type} {s t : σ × δ} {result : Except Fault α}
    (h : Settled (fun s => contents s.1) (fun s => saved s.1) s t result) :
    Settled contents saved s.1 t.1 result := by
  cases h with
  | committed hc hs => exact .committed hc hs
  | returned hb hc hs => exact .returned hb hc hs
  | refused hc hs => exact .refused hc hs

theorem RollsBack.settled {rolled : Except Fault Unit} {result : Except Fault α} {fault : Fault}
    (h : store.RollsBack s sendings rolled t)
    (atomic : store.Atomic ordinary contents saved effect) (hs : saved s = some before)
    (hr : result = .error fault) : Settled contents saved s t result := by
  subst hr
  cases h with
  | closed hopen =>
      rw [atomic.isOpen, hs] at hopen
      cases hopen
  | done _ hsend =>
      obtain ⟨hc, hnone⟩ := atomic.rolledBack _ _ _ _ hs hsend
      exact .returned hs hc hnone
  | refused _ hsend =>
      obtain ⟨-, hc, hk⟩ := atomic.refused _ _ _ _ hsend
      exact .refused hc hk

theorem Concludes.settled {ended result : Except Fault α}
    (h : store.Concludes ended s sendings result t)
    (atomic : store.Atomic ordinary contents saved effect) (hs : saved s = some before) :
    Settled contents saved s t result := by
  have hfaulted : ∀ (rolled : Except Fault Unit) (fault : Fault),
      ∃ other, (rolled >>= fun _ => (.error fault : Except Fault α)) = .error other := by
    intro rolled fault
    cases rolled with
    | ok u => exact ⟨fault, rfl⟩
    | error other => exact ⟨other, rfl⟩
  cases h with
  | committed hsend =>
      obtain ⟨hc, hnone⟩ := atomic.committed _ _ _ _ hs hsend
      exact .committed hc hnone
  | refused hsend hf hr =>
      obtain ⟨-, hc, hk⟩ := atomic.refused _ _ _ _ hsend
      obtain ⟨other, hother⟩ := hfaulted _ _
      exact (hr.settled atomic (hk.trans hs) hother).of_same hc hk
  | broken hsend hf =>
      obtain ⟨-, hc, hk⟩ := atomic.refused _ _ _ _ hsend
      exact .refused hc hk
  | abandoned hr =>
      obtain ⟨other, hother⟩ := hfaulted _ _
      exact hr.settled atomic hs hother

theorem Concludes.of_ok {ended : Except Fault α} {a : α}
    (h : store.Concludes ended s sendings (.ok a) t) :
    ended = .ok a ∧ ∃ reply, store.send s Database.commitStatement = (.ok reply, t) := by
  generalize hresult : (.ok a : Except Fault α) = result at h
  cases h with
  | committed hsend => exact ⟨rfl, _, hsend⟩
  | @refused _ _ _ _ _ _ rolled => cases rolled <;> cases hresult
  | broken => cases hresult
  | @abandoned _ _ _ _ rolled => cases rolled <;> cases hresult

theorem Concludes.undone {fault : Fault} {result : Except Fault α}
    (h : store.Concludes (.error fault) s sendings result t)
    (atomic : store.Atomic ordinary contents saved effect) (hs : saved s = some before)
    (hr : ∃ reply t, store.send s Database.rollbackStatement = (.ok reply, t)) :
    result.toBool = false ∧ contents t = before ∧ saved t = none := by
  cases h with
  | abandoned hrolled =>
      cases hrolled with
      | closed hclosed =>
          rw [atomic.isOpen, hs] at hclosed
          cases hclosed
      | refused _ hrefused =>
          obtain ⟨_, _, hsend⟩ := hr
          cases hsend.symm.trans hrefused
      | done _ hsend => exact ⟨rfl, atomic.rolledBack _ _ _ _ hs hsend⟩

theorem Concludes.ok_of_committed {a : α} {result : Except Fault α}
    (h : store.Concludes (.ok a) s sendings result t)
    (hc : ∃ reply t, store.send s Database.commitStatement = (.ok reply, t)) : result = .ok a := by
  obtain ⟨reply, u, hsend⟩ := hc
  cases h with
  | committed => rfl
  | refused hrefused =>
      rw [hsend] at hrefused
      cases hrefused
  | broken hrefused =>
      rw [hsend] at hrefused
      cases hrefused

end Store

/-! ## What operations do -/

namespace Table

theorem namesColumns_iff {found : List Value} {columns : List Identifier} :
    namesColumns found columns = true ↔ found = columns.map Identifier.toValue := by
  induction found generalizing columns with
  | nil => cases columns <;> simp [namesColumns]
  | cons v found ih =>
      cases columns with
      | nil => simp [namesColumns]
      | cons column columns =>
          have hsame : v.same column.toValue = true ↔ v = column.toValue := Value.same_text_iff
          simp [namesColumns, ih, hsame]

theorem namesColumns_text {names : List String} {columns : List Identifier} :
    namesColumns (names.map .text) columns = true ↔ names = SearchIndex.columnNames columns := by
  have hnames : columns.map Identifier.toValue = (SearchIndex.columnNames columns).map .text :=
    (List.map_map ..).symm
  have hinjective : Function.Injective Value.text := fun _ _ h => Value.text.inj h
  rw [namesColumns_iff, hnames]
  exact hinjective.list_map.eq_iff

theorem mapM_indexedColumn {rows : List Fields} {names : List String}
    (h : rows.map (·.get? (.text "name")) = names.map fun name => some (.text name)) :
    rows.mapM indexedColumn = .ok (names.map .text) := by
  induction rows generalizing names with
  | nil =>
      cases names with
      | nil => rfl
      | cons name names => cases h
  | cons row rows ih =>
      cases names with
      | nil => cases h
      | cons name names =>
          obtain ⟨hrow, hrows⟩ := List.cons.inj h
          have hname : row.get? (.text "name") = some (.text name) := hrow
          have hcolumn : indexedColumn row = .ok (.text name) := by rw [indexedColumn, hname]
          rw [List.mapM_cons, hcolumn, ih hrows]
          rfl

section Operations

variable {db : Database σ} {table : Table} {index : σ → Option (List String)}
  {saved : σ → Option (Option (List String))} {kept : σ → δ} {s t : σ} {statement : Statement}

/-- Whether an index is as it was, and what a transaction could return to, and whatever no
statement changes. -/
structure SameIndex (index : σ → Option (List String)) (saved : σ → Option (Option (List String)))
    (kept : σ → δ) (s t : σ) : Prop where
  index : index t = index s
  saved : saved t = saved s
  kept : kept t = kept s

theorem SameIndex.refl (s : σ) : SameIndex index saved kept s s := ⟨rfl, rfl, rfl⟩

theorem kept_of_send (frame : ∀ s statement, kept (db.store.send s statement).2 = kept s)
    {outcome : Except Fault Reply} (h : db.store.send s statement = (outcome, t)) :
    kept t = kept s := by
  rw [← frame s statement, h]

theorem ensures_query (laws : db.store.KeepsIndex table.name index saved)
    (frame : ∀ s statement, kept (db.store.send s statement).2 = kept s)
    (hc : SearchIndex.Concerns table.name statement)
    (hs : SearchIndex.columnsAfter table.name (index s) statement = index s) :
    (db.query statement).Ensures s fun outcome t => SameIndex index saved kept s t ∧
      ∀ rows, outcome = .ok rows → ∃ reply, db.store.send s statement = (.ok reply, t) ∧
        reply.rows = rows := by
  refine Action.Ensures.bind (Database.ensures_run fun outcome t hsend => hsend) ?_ ?_
  · intro reply t hsend
    obtain ⟨hcolumns, hsaved⟩ := laws.atomic.ordinary _ _ _ _ hc hsend
    refine .pure ⟨⟨hcolumns.trans hs, hsaved, kept_of_send frame hsend⟩, fun rows hrows => ?_⟩
    cases hrows
    exact ⟨reply, hsend, rfl⟩
  · intro fault t hsend
    obtain ⟨-, hcolumns, hsaved⟩ := laws.atomic.refused _ _ _ _ hsend
    exact ⟨⟨hcolumns, hsaved, kept_of_send frame hsend⟩, fun rows hrows => by cases hrows⟩

theorem ensures_indexedColumns (laws : db.store.KeepsIndex table.name index saved)
    (frame : ∀ s statement, kept (db.store.send s statement).2 = kept s) (s : σ) :
    (table.indexedColumns db).Ensures s fun outcome t => SameIndex index saved kept s t ∧
      ∀ found, outcome = .ok found → found = ((index s).getD []).map .text := by
  have hquery := ensures_query (s := s) laws frame .info (SearchIndex.columnsAfter_info _ _)
  refine Action.Ensures.bind hquery ?_ ?_
  · rintro rows t ⟨hsame, hrows⟩
    obtain ⟨reply, hsend, rfl⟩ := hrows rows rfl
    refine .ofExcept ⟨hsame, fun found hfound => ?_⟩
    rw [mapM_indexedColumn (laws.reports _ _ _ hsend)] at hfound
    exact (Except.ok.inj hfound).symm
  · rintro fault t ⟨hsame, -⟩
    exact ⟨hsame, fun found hfound => by cases hfound⟩

theorem ensures_executeAll (laws : db.store.KeepsIndex table.name index saved)
    (frame : ∀ s statement, kept (db.store.send s statement).2 = kept s)
    {statements : List Statement}
    (hc : ∀ statement ∈ statements, SearchIndex.Concerns table.name statement) (s : σ) :
    (db.executeAll statements).Ensures s fun outcome t => saved t = saved s ∧ kept t = kept s ∧
      (outcome = .ok () →
        index t = statements.foldl (SearchIndex.columnsAfter table.name) (index s)) := by
  induction statements generalizing s with
  | nil => exact .pure ⟨rfl, rfl, fun _ => rfl⟩
  | cons statement rest ih =>
      have hexecute : (db.execute statement).Ensures s fun outcome t =>
          saved t = saved s ∧ kept t = kept s ∧ ∀ affected, outcome = .ok affected →
            index t = SearchIndex.columnsAfter table.name (index s) statement := by
        refine Action.Ensures.bind (Database.ensures_run fun outcome t hsend => hsend) ?_ ?_
        · intro reply t hsend
          obtain ⟨hcolumns, hsaved⟩ :=
            laws.atomic.ordinary _ _ _ _ (hc statement List.mem_cons_self) hsend
          exact .pure ⟨hsaved, kept_of_send frame hsend, fun _ _ => hcolumns⟩
        · intro fault t hsend
          obtain ⟨-, -, hsaved⟩ := laws.atomic.refused _ _ _ _ hsend
          exact ⟨hsaved, kept_of_send frame hsend, fun _ h => by cases h⟩
      refine Action.Ensures.bind hexecute ?_ ?_
      · rintro affected t ⟨hsaved, hkept, hcolumns⟩
        refine (ih (fun other ho => hc other (List.mem_cons_of_mem statement ho)) t).imp ?_
        rintro outcome u ⟨hsaved', hkept', hall⟩
        refine ⟨hsaved'.trans hsaved, hkept'.trans hkept, fun hok => ?_⟩
        rw [hall hok, hcolumns affected rfl, List.foldl_cons]
      · rintro fault t ⟨hsaved, hkept, -⟩
        exact ⟨hsaved, hkept, fun hok => by cases hok⟩

/-- An index that was built anew has the columns given. -/
theorem ensures_rebuildIndex (laws : db.store.KeepsIndex table.name index saved)
    (frame : ∀ s statement, kept (db.store.send s statement).2 = kept s)
    {columns : List Identifier} (ne : columns ≠ []) (s : σ) :
    (table.rebuildIndex db columns).Ensures s fun outcome t =>
      saved t = saved s ∧ kept t = kept s ∧
        (outcome = .ok () → index t = some (SearchIndex.columnNames columns)) := by
  have hall : ∀ statement ∈
      SearchIndex.removal table.name ++ SearchIndex.creation table.name columns,
      SearchIndex.Concerns table.name statement := by
    intro statement hm
    rcases List.mem_append.1 hm with hm | hm
    · exact .removal hm
    · exact .creation ne hm
  unfold rebuildIndex
  rw [SearchIndex.creationOf_toValue _ ne]
  refine (Action.Gives.ofExcept rfl).bind ((ensures_executeAll laws frame hall s).imp ?_)
  rintro outcome t ⟨hsaved, hkept, hcolumns⟩
  refine ⟨hsaved, hkept, fun hok => ?_⟩
  rw [hcolumns hok, List.foldl_append, SearchIndex.foldl_columnsAfter_removal,
    SearchIndex.foldl_columnsAfter_creation table.name ne]

theorem kept_of_chain (frame : ∀ s statement, kept (db.store.send s statement).2 = kept s)
    {sent : List Sending} (h : db.store.Chain s sent t) : kept t = kept s := by
  induction h with
  | nil => rfl
  | cons _ ih => exact ih.trans (frame _ _)

/-- What an attempt to change an index leaves. Inside of a transaction what that could return to
stays. Otherwise none is open after success, and after failure the index is as it was, unless the
store left one open. -/
structure IndexChange (index : σ → Option (List String))
    (saved : σ → Option (Option (List String))) (kept : σ → δ) (s : σ) (succeeded : Bool) (t : σ) :
    Prop where
  kept : kept t = kept s
  inside : ∀ before, saved s = some before → saved t = some before
  finished : succeeded = true → saved s = none → saved t = none
  undone : succeeded = false → saved s = none → saved t = none → index t = index s

theorem IndexChange.saved_of_ok (h : IndexChange index saved kept s true t) :
    saved t = saved s := by
  cases hs : saved s with
  | none => exact h.finished rfl hs
  | some before => exact h.inside before hs

theorem SameIndex.change (h : SameIndex index saved kept s t) (succeeded : Bool) :
    IndexChange index saved kept s succeeded t :=
  ⟨h.kept, fun _ hs => h.saved.trans hs, fun _ hs => h.saved.trans hs, fun _ _ _ => h.index⟩

theorem SameIndex.before_change {u : σ} {succeeded : Bool} (h : SameIndex index saved kept s t)
    (hc : IndexChange index saved kept t succeeded u) :
    IndexChange index saved kept s succeeded u where
  kept := hc.kept.trans h.kept
  inside before hs := hc.inside before (h.saved.trans hs)
  finished hok hs := hc.finished hok (h.saved.trans hs)
  undone hf hs hn := (hc.undone hf (h.saved.trans hs) hn).trans h.index

/-- A transaction that was begun here returns here if it is rolled back. -/
theorem IndexChange.of_settled {α : Type} {u : σ} {outcome : Except Fault α}
    (hs : saved s = none) (hu : saved u = some (index s)) (hk : kept t = kept s)
    (h : Store.Settled index saved u t outcome) :
    IndexChange index saved kept s outcome.toBool t where
  kept := hk
  inside before hbefore := by
    rw [hs] at hbefore
    cases hbefore
  finished hok _ := by
    cases h with
    | committed _ hnone => exact hnone
    | returned => cases hok
    | refused => cases hok
  undone hf _ hnone := by
    cases h with
    | committed => cases hf
    | returned hbefore hindex _ =>
        rw [hu] at hbefore
        exact hindex.trans (Option.some.inj hbefore).symm
    | refused _ hopen =>
        rw [hopen, hu] at hnone
        cases hnone

theorem ensures_rebuilt (laws : db.store.KeepsIndex table.name index saved)
    (frame : ∀ s statement, kept (db.store.send s statement).2 = kept s)
    {columns : List Identifier} (ne : columns ≠ []) (s : σ) :
    (db.transaction (table.rebuildIndex db columns)).Ensures s fun outcome t =>
      IndexChange index saved kept s outcome.toBool t ∧
        (outcome = .ok () → index t = some (SearchIndex.columnNames columns)) := by
  have hrebuild : ∀ s, (table.rebuildIndex db columns).Ensures s fun outcome t =>
      saved t = saved s ∧ kept t = kept s ∧
        (outcome = .ok () → index t = some (SearchIndex.columnNames columns)) :=
    ensures_rebuildIndex laws frame ne
  cases hs : saved s with
  | some before =>
      have hopen : db.store.inTransaction s = true := by rw [laws.atomic.isOpen, hs]; rfl
      refine Database.ensures_joined hopen ((hrebuild s).imp ?_)
      rintro outcome t ⟨hsaved, hkept, hcolumns⟩
      refine ⟨⟨hkept, fun _ h => hsaved.trans h, fun _ h => hsaved.trans h, ?_⟩, hcolumns⟩
      intro _ hnone
      rw [hs] at hnone
      cases hnone
  | none =>
      have hclosed : db.store.inTransaction s = false := by rw [laws.atomic.isOpen, hs]; rfl
      have hbody : ∀ reply begun, db.store.send s Database.beginStatement = (.ok reply, begun) →
          (table.rebuildIndex db columns).Ensures begun fun outcome t =>
            saved t = some (index s) ∧ kept t = kept s ∧
              (outcome = .ok () → index t = some (SearchIndex.columnNames columns)) := by
        intro reply begun hsend
        obtain ⟨-, hbegun⟩ := laws.atomic.begun _ _ _ hs hsend
        refine (hrebuild begun).imp ?_
        rintro outcome t ⟨hsaved, hkept, hcolumns⟩
        exact ⟨hsaved.trans hbegun, hkept.trans (kept_of_send frame hsend), hcolumns⟩
      refine Database.ensures_outermost hclosed ?_ hbody ?_
      · intro fault t hsend
        obtain ⟨-, hindex, hsaved⟩ := laws.atomic.refused _ _ _ _ hsend
        have hsame : SameIndex index saved kept s t := ⟨hindex, hsaved, kept_of_send frame hsend⟩
        exact ⟨hsame.change _, fun h => by cases h⟩
      · rintro ended u sendings outcome t ⟨hsaved, hkept, hcolumns⟩ hc
        have hsettled := hc.settled laws.atomic hsaved
        refine ⟨.of_settled hs hsaved ((kept_of_chain frame hc.chain).trans hkept) hsettled, ?_⟩
        rintro rfl
        obtain ⟨hended, reply, hcommit⟩ := hc.of_ok
        rw [(laws.atomic.committed _ _ _ _ hsaved hcommit).1]
        exact hcolumns hended

theorem checkSearchColumn_eq_ok {column : Identifier} :
    table.checkSearchColumn column = .ok () ↔ column ∈ table.schemaColumns := by
  simp [checkSearchColumn]

theorem searchColumnsOf_eq_ok {columns : List Value} {identifiers : List Identifier} :
    table.searchColumnsOf columns = .ok identifiers ↔
      columns = identifiers.map Identifier.toValue ∧
        ∀ column ∈ identifiers, column ∈ table.schemaColumns := by
  simp only [← checkSearchColumn_eq_ok, ← Outcome.forM_eq_ok]
  constructor
  · intro h
    obtain ⟨found, hfound, h⟩ := Outcome.bind_eq_ok.1 h
    obtain ⟨_, hchecked, h⟩ := Outcome.bind_eq_ok.1 h
    cases h
    exact ⟨Identifier.ofValues_eq_ok.1 hfound, hchecked⟩
  · rintro ⟨hfound, hchecked⟩
    exact Outcome.bind_eq_ok.2 ⟨identifiers, Identifier.ofValues_eq_ok.2 hfound,
      Outcome.bind_eq_ok.2 ⟨(), hchecked, rfl⟩⟩

theorem columnNames_eq {names : List String} {identifiers : List Identifier}
    (h : identifiers.map (·.toValue) = names.map .text) :
    names = SearchIndex.columnNames identifiers := by
  have hinjective : Function.Injective Value.text := fun _ _ h => Value.text.inj h
  apply hinjective.list_map
  rw [← h, SearchIndex.columnNames, List.map_map]
  rfl

/-- Columns that are told are those of an index, as no index has none. -/
theorem eq_some_of_names {columns : Option (List String)} {identifiers : List Identifier}
    (ne : identifiers ≠ []) (h : columns.getD [] = SearchIndex.columnNames identifiers) :
    columns = some (SearchIndex.columnNames identifiers) := by
  cases columns with
  | some names => exact congrArg some h
  | none => exact absurd (List.map_eq_nil_iff.1 h.symm) ne

/-- A table that was made searchable remembers the columns given, and the index has them. -/
theorem ensures_searchable (laws : db.store.KeepsIndex table.name index saved)
    (frame : ∀ s statement, kept (db.store.send s statement).2 = kept s) {columns : List Value}
    (ne : columns ≠ []) (s : σ) :
    (table.searchable db columns).Ensures s fun outcome t =>
      IndexChange index saved kept s outcome.toBool t ∧ ∀ next, outcome = .ok next → ∃ identifiers,
        next = { table with searchColumns := some identifiers } ∧
          columns = identifiers.map (·.toValue) ∧
          index t = some (SearchIndex.columnNames identifiers) := by
  rw [searchable_eq]
  refine Action.Ensures.ofExcept_bind (fun identifiers hidentifiers => ?_) fun fault _ => ?_
  · have hcolumns := (searchColumnsOf_eq_ok.1 hidentifiers).1
    have hne : identifiers ≠ [] := by
      rintro rfl
      exact ne hcolumns
    refine Action.Ensures.bind (ensures_indexedColumns laws frame s) ?_ ?_
    · rintro found t ⟨hsame, hfound⟩
      obtain rfl := hfound found rfl
      by_cases hnames : namesColumns (((index s).getD []).map .text) identifiers = true
      · rw [if_neg (by simpa using hnames)]
        refine .pure ⟨hsame.change _, fun next h => ?_⟩
        cases h
        refine ⟨identifiers, rfl, hcolumns, hsame.index.trans ?_⟩
        exact eq_some_of_names hne (namesColumns_text.1 hnames)
      · rw [if_pos (by simpa using hnames)]
        refine Action.Ensures.bind (ensures_rebuilt laws frame hne t) ?_ ?_
        · rintro u v ⟨hchange, hbuilt⟩
          refine (Action.Gives.log _).bind (.pure ⟨hsame.before_change hchange, ?_⟩)
          intro next h
          cases h
          exact ⟨identifiers, rfl, hcolumns, hbuilt rfl⟩
        · rintro fault v ⟨hchange, -⟩
          exact ⟨hsame.before_change hchange, fun next h => by cases h⟩
    · rintro fault t ⟨hsame, -⟩
      exact ⟨hsame.change _, fun next h => by cases h⟩
  · exact ⟨(SameIndex.refl s).change _, fun next h => by cases h⟩

theorem ensures_executed {statements : List Statement}
    (h : ∀ s, ∀ statement ∈ statements, ∃ reply t, db.store.send s statement = (.ok reply, t))
    (s : σ) : (db.executeAll statements).Ensures s fun outcome _ => outcome = .ok () := by
  induction statements generalizing s with
  | nil => exact .pure rfl
  | cons statement rest ih =>
      obtain ⟨reply, t, hsend⟩ := h s statement List.mem_cons_self
      refine (Database.gives_execute hsend).bind ?_
      exact ih (fun s other ho => h s other (List.mem_cons_of_mem statement ho)) t

theorem ensures_rebuilt_ok (laws : db.store.KeepsIndex table.name index saved)
    (frame : ∀ s statement, kept (db.store.send s statement).2 = kept s)
    {columns : List Identifier} (takes : db.store.TakesIndex table.name columns) (ne : columns ≠ [])
    (s : σ) :
    (db.transaction (table.rebuildIndex db columns)).Ensures s fun outcome _ =>
      outcome = .ok () := by
  have hrebuild : ∀ s, (table.rebuildIndex db columns).Ensures s fun outcome t =>
      outcome = .ok () ∧ saved t = saved s := by
    intro s
    have hexecuted : (table.rebuildIndex db columns).Ensures s fun outcome _ =>
        outcome = .ok () := by
      unfold rebuildIndex
      rw [SearchIndex.creationOf_toValue _ ne]
      exact (Action.Gives.ofExcept rfl).bind (ensures_executed takes.built s)
    exact (hexecuted.and (ensures_rebuildIndex laws frame ne s)).imp fun _ _ h => ⟨h.1, h.2.1⟩
  by_cases hopen : db.store.inTransaction s = true
  · exact Database.ensures_joined hopen ((hrebuild s).imp fun _ _ h => h.1)
  · have hclosed : db.store.inTransaction s = false := by simpa using hopen
    have hnone : saved s = none := by
      rw [laws.atomic.isOpen] at hclosed
      simpa using hclosed
    obtain ⟨_, begun, hbegun⟩ := takes.begun s hclosed
    have hbody : ∀ reply t, db.store.send s Database.beginStatement = (.ok reply, t) →
        (table.rebuildIndex db columns).Ensures t fun outcome u =>
          outcome = .ok () ∧ saved u = some (index s) := by
      intro reply t hsend
      obtain ⟨-, ht⟩ := laws.atomic.begun _ _ _ hnone hsend
      exact (hrebuild t).imp fun _ _ h => ⟨h.1, h.2.trans ht⟩
    refine Database.ensures_outermost hclosed ?_ hbody ?_
    · intro fault t hsend
      rw [hbegun] at hsend
      cases hsend
    · rintro ended u sendings outcome t ⟨rfl, hu⟩ hc
      apply hc.ok_of_committed
      apply takes.committed u
      rw [laws.atomic.isOpen, hu]
      rfl

/-- A table is made searchable over columns of its own if the store takes what is sent for it. -/
theorem ensures_searchable_ok (laws : db.store.KeepsIndex table.name index saved)
    (frame : ∀ s statement, kept (db.store.send s statement).2 = kept s)
    {columns : List Identifier} (takes : db.store.TakesIndex table.name columns) (ne : columns ≠ [])
    (h : ∀ column ∈ columns, column ∈ table.schemaColumns) (s : σ) :
    (table.searchable db (columns.map (·.toValue))).Ensures s fun outcome t =>
      outcome = .ok { table with searchColumns := some columns } ∧
        index t = some (SearchIndex.columnNames columns) ∧ saved t = saved s ∧ kept t = kept s := by
  have hok : (table.searchable db (columns.map (·.toValue))).Ensures s fun outcome _ =>
      outcome = .ok { table with searchColumns := some columns } := by
    rw [searchable_eq]
    refine (Action.Gives.ofExcept (searchColumnsOf_eq_ok.2 ⟨rfl, h⟩)).bind ?_
    obtain ⟨reply, t, hinfo⟩ := takes.info s
    have hfound : (table.indexedColumns db).Gives s (((index s).getD []).map .text) t :=
      (Database.gives_query hinfo).bind
        (.ofExcept ⟨mapM_indexedColumn (laws.reports _ _ _ hinfo), rfl⟩)
    refine hfound.bind ?_
    split
    · refine Action.Ensures.bind (ensures_rebuilt_ok laws frame takes ne t) ?_ ?_
      · exact fun _ u _ => (Action.Gives.log _).bind (.pure rfl)
      · exact fun fault u hf => by cases hf
    · exact .pure rfl
  have hne : columns.map Identifier.toValue ≠ [] := by simpa using ne
  refine (hok.and (ensures_searchable laws frame hne s)).imp ?_
  rintro outcome t ⟨rfl, hc, hnext⟩
  obtain ⟨identifiers, hidentifiers, -, hindex⟩ := hnext _ rfl
  cases hidentifiers
  exact ⟨rfl, hindex, hc.saved_of_ok, hc.kept⟩

theorem ensures_unsearchable {columns : List Value}
    (h : (table.searchColumnsOf columns).toBool = false) (s : σ) :
    (table.searchable db columns).Ensures s fun _ t => t = s := by
  rw [searchable_eq]
  refine Action.Ensures.ofExcept_bind (fun identifiers hidentifiers => ?_) fun _ _ => rfl
  rw [hidentifiers] at h
  cases h

/-- A search changes nothing. -/
theorem ensures_search (laws : db.store.KeepsIndex table.name index saved)
    (frame : ∀ s statement, kept (db.store.send s statement).2 = kept s) (query : String)
    (argument : SearchArgument) (s : σ) :
    (table.search db query argument).Ensures s fun _ t => SameIndex index saved kept s t := by
  unfold search searchWith
  cases table.searchColumns with
  | none => exact .throw (.refl s)
  | some columns =>
      refine Action.Ensures.ofExcept_bind (fun options _ => ?_) fun _ _ => .refl s
      split
      · exact .pure (.refl s)
      · refine Action.Ensures.ofExcept_bind (fun limit _ => ?_) fun _ _ => .refl s
        refine Action.Ensures.ofExcept_bind (fun statement hstatement => ?_) fun _ _ => .refl s
        refine (Action.Gives.log _).bind ?_
        obtain ⟨-, snippet, conditions, hsql, -⟩ := SearchQuery.statement_ok hstatement
        obtain ⟨rest, htext⟩ := SearchQuery.text_projection table.name columns query options
          snippet conditions
        have hassoc : ∀ p f r : String,
            "SELECT " ++ p ++ f ++ r = "SELECT " ++ (p ++ (f ++ r)) := by
          intros
          simp only [String.append_assoc]
        have hselect := (hsql.trans htext).trans (hassoc _ _ _)
        have hquery := ensures_query (s := s) laws frame (.search hselect)
          (SearchIndex.columnsAfter_search _ _ hselect)
        refine Action.Ensures.bind hquery ?_ ?_
        · exact fun rows t h => .ofExcept h.1
        · exact fun fault t h => h.1

end Operations

end Table

end TableRecords
