import Mathlib
import TableRecords.Proofs.Search.Asking
import TableRecords.Proofs.Search.Rebuilding

/-! # Tables that are ready for search

A program works with the table that it has in hand, in any order and whatever the store answers. The
columns that the table is searched over are those of the last call that made it searchable, so it is
ready for search after such a call, unless that call was given no columns at all.
-/

namespace TableRecords

variable {σ : Type}

/-- One operation: what it started from, what it sent, how it ended, and what it left in hand. -/
structure Turn where
  held : Holding
  request : Request
  sent : List Sending
  outcome : Except Fault Unit
  left : Holding

/-- Operations one after the other, each on what the one before it left in hand, and from whatever
state the store is in when its turn comes. The last one comes first. -/
inductive Course (db : Database σ) (start : Holding) : List Turn → Holding → Prop
  | start : Course db start [] start
  | turn {turns held request s sent outcome left s'} (h : Course db start turns held)
      (hs : db.Sends ((request.perform (db.recording Unit)).runOn held)
        ((request.perform db).runOn held) s sent (.ok (outcome, left)) s') :
      Course db start (⟨held, request, sent, outcome, left⟩ :: turns) left

/-- Any operations make a course. -/
theorem Course.exists_of_requests (db : Database σ) (start : Holding) (s : σ)
    (requests : List Request) :
    ∃ turns held, Course db start turns held ∧ turns.map (·.request) = requests := by
  induction requests with
  | nil => exact ⟨[], start, .start, rfl⟩
  | cons request requests ih =>
      obtain ⟨turns, held, h, hrequests⟩ := ih
      obtain ⟨sent, outcome, left, s', hs, -⟩ := (request.refusesFirst_perform held).exists_sends s
      exact ⟨_, _, h.turn hs, congrArg (request :: ·) hrequests⟩

/-- The columns that are asked for once an operation succeeded. -/
def Request.askedFor (earlier : Option (List Value)) : Request → Option (List Value)
  | define .. => none
  | searchable columns => some columns
  | _ => earlier

/-- The columns that the table in hand was last made searchable over, if it was since it was
defined. -/
def askedFor : List Turn → Option (List Value)
  | [] => none
  | turn :: earlier =>
    match turn.outcome with
    | .ok _ => turn.request.askedFor (askedFor earlier)
    | .error _ => askedFor earlier

namespace Table

variable {db : Database σ} (table : Table)

/-- One statement was sent, and no index was reported. -/
def FoundNone (sent : List Sending) : Prop :=
  ∃ query reply, sent = [query] ∧ query.statement = table.indexInfo ∧ query.outcome = .ok reply ∧
    reply.rows = []

theorem yields_indexedColumns : db.Yields (table.indexedColumns (db.recording Unit))
    (table.indexedColumns db) fun sent found => ∃ query reply, sent = [query] ∧
      query.statement = table.indexInfo ∧ query.outcome = .ok reply ∧
      reply.rows.mapM indexedColumn = .ok found := by
  refine (db.asks_query table.indexInfo).yields.bind ?_
  rintro _ rows ⟨query, reply, rfl, hstatement, hanswer, rfl⟩
  exact .ofExcept fun found hfound => ⟨query, reply, rfl, hstatement, hanswer, hfound⟩

/-- No index is built over no columns. -/
theorem yields_rebuilt (columns : List Identifier) :
    db.Yields ((db.recording Unit).transaction (table.rebuildIndex (db.recording Unit) columns))
      (db.transaction (table.rebuildIndex db columns)) fun _ _ => columns ≠ [] := by
  have hbody : db.Yields (table.rebuildIndex (db.recording Unit) columns)
      (table.rebuildIndex db columns) fun _ _ => columns ≠ [] := by
    refine .ofExcept_bind fun creation hcreation => ?_
    have hne : columns ≠ [] := by
      rintro rfl
      obtain ⟨_, -, hcreation⟩ := Outcome.bind_eq_ok.1 hcreation
      cases hcreation
    exact (Database.NeverRefuses.executeAll _).imp fun _ _ _ _ _ => hne
  refine Database.Always.transaction hbody (fun _ _ h => h) (fun _ _ _ _ _ h => by cases h) ?_
  rintro _ sent ended _ closing result _ - hended hc u rfl
  exact hended u hc.of_ok.1

theorem yields_makeSearchable (given : List Value) :
    db.Yields ((makeSearchable (db.recording Unit) given).value table)
      ((makeSearchable db given).value table) fun sent found =>
        ∃ columns, given = columns.map Identifier.toValue ∧
          (∀ column ∈ columns, column ∈ table.schemaColumns) ∧
          found.2 = table.indexed columns ∧ (columns = [] → table.FoundNone sent) := by
  rw [value_makeSearchable, value_makeSearchable]
  refine .ofExcept_bind fun columns hcolumns => ?_
  obtain ⟨hgiven, hown⟩ := searchColumnsOf_eq_ok.1 hcolumns
  refine table.yields_indexedColumns.bind ?_
  rintro _ found ⟨query, reply, rfl, hstatement, hanswer, hfound⟩
  split
  · refine (table.yields_rebuilt columns).bind fun _ _ hne => .log_bind _ (.pure ?_)
    exact ⟨columns, hgiven, hown, rfl, fun hempty => absurd hempty hne⟩
  · rename_i hsame
    refine .pure ⟨columns, hgiven, hown, rfl, ?_⟩
    rintro rfl
    -- what was found has the columns asked for, and these are none
    have hnone := namesColumns_iff.1 (by simpa using hsame)
    rw [hnone, Outcome.mapM_eq_ok] at hfound
    exact ⟨query, reply, rfl, hstatement, hanswer, List.forall₂_nil_right_iff.1 hfound⟩

end Table

/-- What an operation that succeeds leaves in hand, as far as the table goes. -/
inductive Request.Leaves (held : Holding) : Request → List Sending → Holding → Prop
  | defined {name schema sent next} (h : next.table.searchColumns = none) :
      Leaves held (.define name schema) sent next
  | indexed {given columns sent next} (hg : given = columns.map Identifier.toValue)
      (hc : ∀ column ∈ columns, column ∈ held.table.schemaColumns)
      (ht : next.table = held.table.indexed columns)
      (he : columns = [] → held.table.FoundNone sent) : Leaves held (.searchable given) sent next
  | kept {request sent next} (hr : ∀ earlier, Request.askedFor earlier request = earlier)
      (h : next.table = held.table) : Leaves held request sent next

namespace Request

variable {db : Database σ} {held : Holding} {request : Request}

theorem yields_kept {β : Type} {noted : Holding → Action (σ × List (Event Unit)) β}
    {plain : Holding → Action σ β} {put : Holding → β → Holding}
    {P : List Sending → Except Fault β → Prop} (h : db.Always (noted held) (plain held) P)
    (hr : ∀ earlier, request.askedFor earlier = earlier)
    (hput : ∀ b, (put held b).table = held.table) :
    db.Yields ((InPlace.taking noted put).value held) ((InPlace.taking plain put).value held)
      fun sent found => request.Leaves held sent found.2 := by
  rw [InPlace.value_taking, InPlace.value_taking]
  exact h.yields.bind fun _ b _ => .pure (.kept hr (hput b))

theorem yields_kept_onRecord {β : Type} {noted : InPlace Record (σ × List (Event Unit)) β}
    {plain : InPlace Record σ β} {P : List Sending → Except Fault (β × Record) → Prop}
    (h : db.Always (noted.value held.record) (plain.value held.record) P)
    (hr : ∀ earlier, request.askedFor earlier = earlier) :
    db.Yields ((Holding.onRecord noted).value held) ((Holding.onRecord plain).value held)
      fun sent found => request.Leaves held sent found.2 := by
  refine Holding.always_onRecord (h.imp fun sent outcome _ found hfound => ?_)
  obtain ⟨_, -, rfl⟩ := Outcome.map_eq_ok.1 hfound
  exact .kept hr rfl

/-- Whatever is neither a definition nor makes a table searchable keeps the table. -/
theorem yields_leaves (held : Holding) (request : Request) :
    db.Yields ((request.perform (db.recording Unit)).value held)
      ((request.perform db).value held) fun sent found => request.Leaves held sent found.2 := by
  cases request with
  | define name schema =>
      rw [perform, perform, InPlace.value_taking, InPlace.value_taking]
      refine (Table.yields_define db name schema).bind ?_
      rintro _ _ ⟨identifier, columns, _, -, -, rfl⟩
      exact .pure (.defined rfl)
  | searchable columns =>
      refine Holding.always_onTable ((held.table.yields_makeSearchable columns).imp ?_)
      intro sent outcome hyields found hfound
      obtain ⟨made, hmade, rfl⟩ := Outcome.map_eq_ok.1 hfound
      obtain ⟨columns, hgiven, hown, hnext, hnone⟩ := hyields made hmade
      exact .indexed hgiven hown hnext hnone
  | insert attrs =>
      exact yields_kept (held.table.refusesFirst_insert attrs) (fun _ => rfl) fun _ => rfl
  | get id =>
      exact yields_kept (held.table.refusesFirst_firstRecord _) (fun _ => rfl) fun _ => rfl
  | first conditions =>
      exact yields_kept (held.table.refusesFirst_firstRecord _) (fun _ => rfl) fun _ => rfl
  | list | filter conditions =>
      exact yields_kept (held.table.refusesFirst_records _) (fun _ => rfl) fun _ => rfl
  | tally conditions =>
      exact yields_kept (held.table.refusesFirst_tally conditions) (fun _ => rfl) fun _ => rfl
  | exists? conditions =>
      exact yields_kept ((held.table.refusesFirst_tally conditions).bind fun _ => .pure _)
        (fun _ => rfl) fun _ => rfl
  | pluck column =>
      exact yields_kept (held.table.refusesFirst_pluck column) (fun _ => rfl) fun _ => rfl
  | destroy conditions =>
      exact yields_kept (held.table.refusesFirst_destroy conditions) (fun _ => rfl) fun _ => rfl
  | updateAll conditions attrs =>
      exact yields_kept (held.table.refusesFirst_updateAll conditions attrs) (fun _ => rfl)
        fun _ => rfl
  | search query argument =>
      exact yields_kept (held.table.refusesFirst_search query argument) (fun _ => rfl)
        fun _ => rfl
  | save => exact yields_kept held.record.refusesFirst_save (fun _ => rfl) fun _ => rfl
  | delete => exact yields_kept_onRecord held.record.refusesFirst_deleteRow fun _ => rfl
  | reload =>
      have hreload : db.Yields
          ((Holding.onRecord (Record.reloadRow (db.recording Unit))).value held)
          ((Holding.onRecord (Record.reloadRow db)).value held)
          fun sent found => reload.Leaves held sent found.2 :=
        yields_kept_onRecord held.record.refusesFirst_reloadRow fun _ => rfl
      rw [value_reload, value_reload]
      refine hreload.bind fun sent found hleaves => .pure ?_
      rwa [List.append_nil]
  | setAttribute name v =>
      rw [value_setAttribute, value_setAttribute]
      exact .ofExcept_bind fun name _ =>
        yields_kept_onRecord (held.record.refusesFirst_putAttribute name v) fun _ => rfl
  | setItem key v =>
      exact yields_kept_onRecord (held.record.refusesFirst_putItem key v) fun _ => rfl

/-- What an operation leaves in hand if it succeeds, and that it leaves all as it was if not. -/
theorem leaves (held : Holding) (request : Request) :
    db.AlwaysOn (request.perform (db.recording Unit)) (request.perform db) held
      fun sent outcome left => (outcome = .ok () → request.Leaves held sent left) ∧
        ∀ fault, outcome = .error fault → left = held := by
  refine .on (framed_perform _ request) (framed_perform db request) ?_
  refine (request.yields_leaves held).imp fun sent result hyields => ?_
  cases result with
  | error fault => exact ⟨nofun, fun _ _ => rfl⟩
  | ok found => exact ⟨fun _ => hyields found rfl, nofun⟩

end Request

/-- Whether a table is searched over the columns that were asked for, all of them its own. -/
structure Table.IsOver (table : Table) (asked : Option (List Value)) : Prop where
  columns : table.searchColumns.map (·.map Identifier.toValue) = asked
  own : ∀ columns, table.searchColumns = some columns →
    ∀ column ∈ columns, column ∈ table.schemaColumns

theorem Table.IsOver.of_none {table : Table} (h : table.searchColumns = none) :
    table.IsOver none where
  columns := by rw [h, Option.map_none]
  own columns hc := by
    rw [h] at hc
    cases hc

theorem Request.Leaves.isOver {held next : Holding} {request : Request} {sent : List Sending}
    {asked : Option (List Value)} (h : request.Leaves held sent next)
    (ho : held.table.IsOver asked) : next.table.IsOver (request.askedFor asked) := by
  cases h with
  | defined hnone => exact .of_none hnone
  | @indexed given columns _ _ hg hc ht he =>
      rw [ht]
      refine ⟨congrArg some hg.symm, fun others hothers => ?_⟩
      cases hothers
      exact hc
  | kept hr ht =>
      rw [hr, ht]
      exact ho

namespace Course

variable {db : Database σ} {start held : Holding} {turns : List Turn}

theorem isOver (h : Course db start turns held) (hstart : start.table.searchColumns = none) :
    held.table.IsOver (askedFor turns) := by
  induction h with
  | start => exact .of_none hstart
  | @turn turns held request s sent outcome left s' h hs ih =>
      obtain ⟨hleaves, hkept⟩ := (request.leaves held).of_sends hs
      cases outcome with
      | error fault =>
          rw [hkept fault rfl]
          exact ih
      | ok _ => exact (hleaves rfl).isOver ih

/-- A call without columns succeeds only where there is no index, and then it builds none. -/
theorem foundNone (h : Course db start turns held) : ∀ turn ∈ turns, turn.request = .searchable [] →
    turn.outcome = .ok () → turn.held.table.FoundNone turn.sent := by
  induction h with
  | start => simp
  | @turn turns held request s sent outcome left s' h hs ih =>
      refine List.forall_mem_cons.2 ⟨?_, ih⟩
      rintro rfl rfl
      cases ((Request.leaves held _).of_sends hs).1 rfl with
      | indexed hg _ _ he => exact he (List.map_eq_nil_iff.1 hg.symm)
      | kept hr _ => cases hr none

end Course

theorem Sending.IsOwn.ne_noIndexColumns {sending : Sending} (h : sending.IsOwn) :
    sending.outcome ≠ .error .noIndexColumns := by
  intro hf
  rcases h _ hf with hstore | hkind
  · cases hstore
  · cases hkind

theorem SearchArgument.load_ne (argument : SearchArgument) :
    argument.load ≠ .error .noIndexColumns := by
  cases argument with
  | ready options => nofun
  | given v =>
      change SearchOptions.load v ≠ _
      unfold SearchOptions.load SearchOptions.loadWith SearchOptions.validate
      split
      · nofun
      · cases (SearchOptions.ofValue _).outcome <;> nofun

theorem Annotations.split_ne (row : Fields) : split (some row) ≠ .error .noIndexColumns := by
  intro h
  rcases Outcome.bind_eq_error.1 h with hnames | ⟨columns, -, h⟩
  · obtain ⟨before, entry, after, -, -, hentry⟩ := Outcome.mapM_eq_error.1 hnames
    have hname := Outcome.map_eq_error.1 hentry
    unfold Value.nameText at hname
    split at hname <;> cases hname
  · split at h
    · cases h
    · rcases Outcome.bind_eq_error.1 h with hrejected | ⟨_, -, h⟩
      · rename_i rank _
        cases houtcome : (ofColumns columns rank).outcome <;> rw [houtcome] at hrejected <;>
          cases hrejected
      · cases h

theorem Record.ofRow_ne (table : Value) (fields : Fields) (annotations : Option Annotations) :
    ofRow table fields annotations ≠ .error .noIndexColumns := by
  intro h
  unfold ofRow at h
  split at h <;> cases h

theorem Table.wrapHit_ne (table : Table) (row : Fields) :
    table.wrapHit row ≠ .error .noIndexColumns := by
  intro h
  rcases Outcome.bind_eq_error.1 h with hsplit | ⟨_, -, hmade⟩
  · exact Annotations.split_ne row hsplit
  · exact Record.ofRow_ne _ _ _ hmade

theorem SearchQuery.Refusal.ne {columns : List Identifier} {options : SearchOptions}
    {fault : Fault} (h : SearchQuery.Refusal columns options fault) : fault ≠ .noIndexColumns := by
  rintro rfl
  obtain _ | ⟨-, before, ⟨key, v⟩, after, -, -, hentry⟩ := h
  cases hentry

/-! ## Searches -/

/-- Whether a search passes the checks that come before its statement: there is a word to look for,
the options are accepted, and there is a limit. -/
def Table.Wanted (db : Database σ) (query : String) (argument : SearchArgument) : Prop :=
  (∃ c ∈ query.toList, isWhite c = false) ∧
    ∃ options limit, argument.load = .ok options ∧ hitLimit db options = .ok limit

/-- How a search ends, as far as the columns it is over decide it. -/
structure Table.Responds (db : Database σ) (asked : Option (List Value)) (table : Table)
    (query : String) (argument : SearchArgument) (sent : List Sending)
    (outcome : Except Fault (List Record)) : Prop where
  unasked : asked = none → sent = [] ∧ outcome = .error (.searchNotEnabled table.name.text)
  empty : asked = some [] → sent = []
  noColumns : OwnFaults sent →
    (outcome = .error .noIndexColumns ↔ asked = some [] ∧ Wanted db query argument)

namespace Table

variable {db : Database σ} {table : Table} {asked : Option (List Value)} {query : String}
  {argument : SearchArgument} {sent : List Sending} {outcome : Except Fault (List Record)}

theorem hitLimit_ne (hsettings : db.settings ≠ .error .noIndexColumns) (options : SearchOptions) :
    hitLimit db options ≠ .error .noIndexColumns := by
  unfold hitLimit
  cases options.limit with
  | some limit => nofun
  | none => exact fun h => hsettings (Outcome.map_eq_error.1 h)

theorem responds_unasked (hcolumns : table.searchColumns = none) (query : String)
    (argument : SearchArgument) :
    db.Always (table.search (db.recording Unit) query argument) (table.search db query argument)
      (Responds db none table query argument) := by
  unfold search searchWith
  rw [hcolumns]
  exact .ofExcept ⟨fun _ => ⟨rfl, rfl⟩, nofun, fun _ => by simp⟩

theorem Responds.of_unwanted (hw : ¬Wanted db query argument)
    (ho : outcome ≠ .error .noIndexColumns) :
    Responds db (some []) table query argument [] outcome where
  unasked := nofun
  empty _ := rfl
  noColumns _ := iff_of_false ho fun h => hw h.2

/-- Without columns every check passes but that of the index, and nothing is ever sent. -/
theorem responds_empty (hcolumns : table.searchColumns = some [])
    (hsettings : db.settings ≠ .error .noIndexColumns) (query : String)
    (argument : SearchArgument) :
    db.Always (table.search (db.recording Unit) query argument) (table.search db query argument)
      (Responds db (some []) table query argument) := by
  unfold search searchWith
  rw [hcolumns]
  refine .ofExcept_bind (fun fault hf => .of_unwanted ?_ ?_) fun options hoptions => ?_
  · rintro ⟨-, options, limit, hoptions, -⟩
    exact absurd (hf.symm.trans hoptions) nofun
  · rintro ⟨⟩
    exact argument.load_ne hf
  split
  · rename_i hblank
    refine .ofExcept (.of_unwanted ?_ nofun)
    rintro ⟨hquery, -⟩
    exact absurd (hblank.symm.trans (isBlankText_eq_false.2 hquery)) nofun
  · rename_i hblank
    have hquery := isBlankText_eq_false.1 (Bool.eq_false_iff.2 hblank)
    refine .ofExcept_bind (fun fault hf => .of_unwanted ?_ ?_) fun limit hlimit => ?_
    · rintro ⟨-, others, limit, hothers, hlimit⟩
      obtain rfl := Except.ok.inj (hoptions.symm.trans hothers)
      exact absurd (hf.symm.trans hlimit) nofun
    · rintro ⟨⟩
      exact hitLimit_ne hsettings options hf
    have hmade : SearchQuery.statement table.name.toValue [] query options (.int limit.val) =
        .error .noIndexColumns :=
      Outcome.bind_eq_error.2 (.inr ⟨table.name, Identifier.ofValue_toValue _ _, rfl⟩)
    refine .ofExcept_bind (fun fault hf => ?_) fun made hok => ?_
    · obtain rfl := Except.error.inj (hmade.symm.trans hf)
      exact ⟨nofun, fun _ => rfl, fun _ => iff_of_true rfl
        ⟨rfl, hquery, options, limit, hoptions, hlimit⟩⟩
    · exact absurd (hmade.symm.trans hok) nofun

theorem search_ne {columns : List Identifier} (hcolumns : table.searchColumns = some columns)
    (ne : columns ≠ []) (hsettings : db.settings ≠ .error .noIndexColumns) (query : String)
    (argument : SearchArgument) :
    db.Always (table.search (db.recording Unit) query argument) (table.search db query argument)
      fun sent outcome => OwnFaults sent → outcome ≠ .error .noIndexColumns := by
  unfold search searchWith
  rw [hcolumns]
  refine .ofExcept_bind (fun fault hf _ h => ?_) fun options _ => ?_
  · cases h
    exact argument.load_ne hf
  split
  · exact .ofExcept fun _ => nofun
  · refine .ofExcept_bind (fun fault hf _ h => ?_) fun limit _ =>
      .ofExcept_bind (fun fault hf _ h => ?_) fun made _ => .log_bind _ ?_
    · cases h
      exact hitLimit_ne hsettings options hf
    · cases h
      exact ((SearchQuery.statement_eq_error ne).1 hf).ne rfl
    · refine (db.asks_query made).bind (fun sending fault _ ho hown h => ?_)
        fun sending reply _ _ => .ofExcept fun _ h => ?_
      · obtain rfl := Except.error.inj h
        exact (hown sending (by simp)).ne_noIndexColumns ho
      · obtain ⟨before, row, after, -, -, hrow⟩ := Outcome.mapM_eq_error.1 h
        exact table.wrapHit_ne row hrow

theorem IsOver.responds (ho : table.IsOver asked)
    (hsettings : db.settings ≠ .error .noIndexColumns) (query : String)
    (argument : SearchArgument) :
    db.Always (table.search (db.recording Unit) query argument) (table.search db query argument)
      (Responds db asked table query argument) := by
  obtain ⟨rfl, -⟩ := ho
  cases hcolumns : table.searchColumns with
  | none => exact responds_unasked hcolumns query argument
  | some columns =>
      cases columns with
      | nil => exact responds_empty hcolumns hsettings query argument
      | cons column rest =>
          refine (search_ne hcolumns (List.cons_ne_nil _ _) hsettings query argument).imp ?_
          exact fun sent outcome hne =>
            ⟨nofun, nofun, fun hown => iff_of_false (hne hown) fun h => by cases h.1⟩

end Table

/-- Any operations can be done one after the other with a table that is not searchable yet. Whatever
the store answers, the table is searched over the columns it was last made searchable over, all of
them its own. A search is refused where there was no such call. It fails for want of columns exactly
if that call was given none, which succeeds where no index is found and builds none. -/
theorem ready_unless_no_columns {db : Database σ} (hsettings : db.settings ≠ .error .noIndexColumns)
    {start : Holding} (hstart : start.table.searchColumns = none) (s : σ)
    (requests : List Request) :
    (∃ turns held, Course db start turns held ∧ turns.map (·.request) = requests) ∧
      ∀ turns held, Course db start turns held → turns.map (·.request) = requests →
        held.table.IsOver (askedFor turns) ∧
        (∀ turn ∈ turns, turn.request = .searchable [] → turn.outcome = .ok () →
          turn.held.table.FoundNone turn.sent) ∧
        ∀ query argument s, ∃ sent outcome s', db.Sends
          (held.table.search (db.recording Unit) query argument)
          (held.table.search db query argument) s sent outcome s' ∧
          Table.Responds db (askedFor turns) held.table query argument sent outcome := by
  refine ⟨Course.exists_of_requests db start s requests, fun turns held h _ => ?_⟩
  have hover := h.isOver hstart
  exact ⟨hover, h.foundNone, fun query argument => hover.responds hsettings query argument⟩

theorem searchable_over_nothing :
    ((((Request.searchable []).perform Playback.database).runOn ⟨notes, note "seen"⟩).runFrom
      ⟨{}, []⟩).1 = .ok (.ok (), ⟨notes.indexed [], note "seen"⟩) ∧
    (((notes.indexed []).search Playback.database "draft" (.given .null)).runFrom ⟨{}, []⟩).1 =
      .error .noIndexColumns :=
  ⟨rfl, rfl⟩

/-- Where no columns were asked for, a search with a word fails before it sends anything. -/
theorem notes_not_ready : ∃ turns held, Course Playback.database ⟨notes, note "seen"⟩ turns held ∧
    askedFor turns = some [] ∧ ∃ s', Playback.database.Sends
      (held.table.search (Playback.database.recording Unit) "draft" (.given .null))
      (held.table.search Playback.database "draft" (.given .null)) {} []
      (.error .noIndexColumns) s' := by
  have hrun : ((((Request.searchable []).perform Playback.database).runOn
      ⟨notes, note "seen"⟩).runFrom ⟨{}, []⟩).1 =
        .ok (.ok (), ⟨notes.indexed [], note "seen"⟩) := rfl
  obtain ⟨sent, s', hs⟩ :=
    Database.Always.exists_sends ((Request.searchable []).leaves _) hrun
  have hbeginning : Course Playback.database ⟨notes, note "seen"⟩ [] ⟨notes, note "seen"⟩ := .start
  have hcourse := hbeginning.turn hs
  have hsettings : Playback.database.settings ≠ .error .noIndexColumns := nofun
  have hstart : (Holding.mk notes (note "seen")).table.searchColumns = none := rfl
  obtain ⟨-, hall⟩ := ready_unless_no_columns hsettings hstart {} [.searchable []]
  obtain ⟨-, -, hsearch⟩ := hall _ _ hcourse rfl
  obtain ⟨searched, outcome, s'', hsends, hresponds⟩ := hsearch "draft" (.given .null) {}
  have hwanted : Table.Wanted Playback.database "draft" (.given .null) :=
    ⟨⟨'d', by decide, by decide⟩, {}, ⟨20, by decide⟩, rfl, rfl⟩
  obtain rfl := hresponds.empty rfl
  obtain rfl := (hresponds.noColumns (by simp [OwnFaults])).2 ⟨rfl, hwanted⟩
  exact ⟨_, _, hcourse, rfl, s'', hsends⟩

end TableRecords
