import Mathlib
import TableRecords.Proofs.Search.Catalogue
import TableRecords.Proofs.Search.Handles

/-! # Errands

What a client finds after each thing it did, whatever it does. Each handle remembers the columns it
was last made searchable over, and the index has those of the call that stands last; a handle that
remembers the same columns numbers them as the index does.
-/

namespace TableRecords

variable {σ ι : Type} {index : σ → Option (List String)}
  {saved : σ → Option (Option (List String))} {name : Identifier}

section Errands

variable {db : Database σ} {s t : σ × Desk σ ι}

theorem laws_of_name (laws : db.store.KeepsIndex name index saved) {table : Table}
    (hname : table.name = name) :
    (db.atDesk ι).store.KeepsIndex table.name (fun s => index s.1) fun s => saved s.1 := by
  rw [hname]
  exact laws.beside _

theorem closed_of_none (laws : db.store.KeepsIndex name index saved) (h : saved s.1 = none) :
    (db.atDesk ι).store.inTransaction s = false := by
  show db.store.inTransaction s.1 = false
  rw [laws.atomic.isOpen, h]
  rfl

theorem open_of_some (laws : db.store.KeepsIndex name index saved) {before : Option (List String)}
    (h : saved s.1 = some before) : (db.atDesk ι).store.inTransaction s = true := by
  show db.store.inTransaction s.1 = true
  rw [laws.atomic.isOpen, h]
  rfl

theorem desk_of_send (db : Database σ) (s : σ × Desk σ ι) (statement : Statement) :
    ((db.atDesk ι).store.send s statement).2.2 = s.2 := rfl

/-- Whether what a client knows stays so, whatever is known when an action begins. -/
def KeepsOrder (name : Identifier) (index : σ → Option (List String))
    (saved : σ → Option (Option (List String))) (action : Action (σ × Desk σ ι) Unit) : Prop :=
  ∀ s, Orderly name index saved s →
    action.Ensures s fun _ t => Orderly name index saved t ∧ Stays saved s t

theorem KeepsOrder.after {next : Action (σ × Desk σ ι) Unit}
    (hnext : KeepsOrder name index saved next) {f : σ × Desk σ ι → σ × Desk σ ι}
    (h : Orderly name index saved (f t)) (hstays : Stays saved s (f t)) :
    (do
      Action.modifyState f
      next).Ensures t fun _ u => Orderly name index saved u ∧ Stays saved s u := by
  refine (Action.Gives.modifyState f t).bind ((hnext _ h).imp ?_)
  rintro outcome u ⟨hu, hstaying⟩
  exact ⟨hu, hstays.trans hstaying⟩

/-- How an outermost transaction around the body of a client ends. -/
theorem ensures_entered (laws : db.store.KeepsIndex name index saved)
    {body : Action (σ × Desk σ ι) Unit} (hbody : KeepsOrder name index saved body)
    (h : Orderly name index saved s) (hnone : saved s.1 = none) :
    ((db.atDesk ι).transaction (do
      Action.modifyState (Desk.note (.entered true))
      body)).Ensures s fun outcome t =>
        Orderly name index saved (Desk.leave db true outcome t) := by
  have atomic := (laws.beside (Desk σ ι)).atomic
  have hclosed := closed_of_none laws hnone
  have hbegun : ∀ reply t, (db.atDesk ι).store.send s Database.beginStatement = (.ok reply, t) →
      (do
        Action.modifyState (Desk.note (.entered true))
        body).Ensures t fun _ u => Orderly name index saved u ∧ saved u.1 = some (index s.1) ∧
          (standing u.2.history).saved = some (standing s.2.history).columns := by
    intro reply t hsend
    have hdesk : t.2 = s.2 := Table.kept_of_send (desk_of_send db) hsend
    obtain ⟨hindex, hsaved⟩ := atomic.begun _ _ _ hnone hsend
    have hentered : Orderly name index saved (Desk.note (.entered true) t) :=
      h.note hdesk (fun _ _ hm => by cases hm) (h.now.tells.entered hindex hsaved)
    refine (hbody.after hentered (.refl _)).imp ?_
    rintro outcome u ⟨hu, hstays⟩
    obtain ⟨hopen, hstanding⟩ := hstays _ hsaved
    refine ⟨hu, hopen, hstanding.trans ?_⟩
    rw [← hdesk]
    rfl
  refine Database.ensures_outermost hclosed ?_ hbegun ?_
  · intro fault t hsend
    obtain ⟨-, hindex, hsaved⟩ := atomic.refused _ _ _ _ hsend
    unfold Desk.leave
    rw [laws.atomic.isOpen]
    refine h.note (Table.kept_of_send (desk_of_send db) hsend) (fun _ _ hm => by cases hm) ?_
    exact h.now.tells.unbegun hnone hindex hsaved
  · rintro ended u sendings outcome t ⟨hu, hsaved, hstanding⟩ hc
    have hsettled := (hc.settled atomic hsaved).of_beside
    unfold Desk.leave
    rw [laws.atomic.isOpen]
    refine hu.note (Table.kept_of_chain (desk_of_send db) hc.chain) (fun _ _ hm => by cases hm) ?_
    exact hu.now.tells.left hstanding hsettled

theorem ensures_inside {body : Action (σ × Desk σ ι) Unit}
    (hbody : KeepsOrder name index saved body) (h : Orderly name index saved s)
    (hopen : db.store.inTransaction s.1 = true) :
    ((db.atDesk ι).transaction (do
      Action.modifyState (Desk.note (.entered false))
      body)).Ensures s fun outcome t => Orderly name index saved (Desk.leave db false outcome t) ∧
        Stays saved s (Desk.leave db false outcome t) := by
  have hentered : Orderly name index saved (Desk.note (.entered false) s) :=
    h.note rfl (fun _ _ hm => by cases hm) h.now.tells
  have hstays : Stays saved s (Desk.note (.entered false) s) := .note rfl (fun _ hs => hs) rfl
  refine Database.ensures_joined hopen ((hbody.after hentered hstays).imp ?_)
  rintro outcome t ⟨ht, hstaying⟩
  have hleft : Orderly name index saved (Desk.leave db false outcome t) :=
    ht.note rfl (fun _ _ hm => by cases hm) ht.now.tells
  have hleaving : Stays saved t (Desk.leave db false outcome t) := .note rfl (fun _ hs => hs) rfl
  exact ⟨hleft, hstaying.trans hleaving⟩

variable [DecidableEq ι]

/-- Whatever a client does, what it knows stays so. -/
theorem Errand.keepsOrder (laws : db.store.KeepsIndex name index saved) (errand : Errand ι) :
    KeepsOrder name index saved (errand.action db) := by
  induction errand with
  | done outcome => exact fun s h => .ofExcept ⟨h, .refl s⟩
  | searchable handle columns ne next ih =>
      intro s h
      refine (Action.Gives.state s).bind ?_
      have hsearchable := Table.ensures_searchable (laws_of_name laws (h.now.named handle))
        (desk_of_send db) ne s
      have hunsent : ((s.2.handles handle).searchable (db.atDesk ι) columns).Ensures s fun _ t =>
          ((s.2.handles handle).searchColumnsOf columns).toBool = false → t = s := by
        cases hvalid : ((s.2.handles handle).searchColumnsOf columns).toBool with
        | true => exact fun _ hv => by cases hv
        | false => exact (Table.ensures_unsearchable hvalid s).imp fun _ _ hs _ => hs
      refine Action.Ensures.attempt_bind (hsearchable.and hunsent) ?_
      rintro outcome t ⟨⟨hc, hok⟩, hu⟩
      obtain ⟨horderly, hstays⟩ := h.settle laws.atomic.isOpen handle columns hc hok hu
      exact (ih outcome).after horderly hstays
  | search handle query argument next ih =>
      intro s h
      refine (Action.Gives.state s).bind ?_
      have hsearch := Table.ensures_search (laws_of_name laws (h.now.named handle))
        (desk_of_send db) query argument s
      refine Action.Ensures.attempt_bind hsearch ?_
      intro outcome t hsame
      have hnoted : Orderly name index saved (Desk.note (.searched handle) t) :=
        h.note hsame.kept (fun _ _ hm => by cases hm) (h.now.tells.same hsame.index hsame.saved)
      have hstays : Stays saved s (Desk.note (.searched handle) t) :=
        .note hsame.kept (fun _ hs => hsame.saved.trans hs) rfl
      exact (ih outcome).after hnoted hstays
  | transact body next ihbody ih =>
      intro s h
      refine (Database.gives_inTransaction (db.atDesk ι) s).bind ?_
      cases hs : saved s.1 with
      | none =>
          rw [closed_of_none laws hs]
          refine Action.Ensures.attempt_bind (ensures_entered laws ihbody h hs) ?_
          exact fun outcome t hleft => (ih outcome).after hleft (.of_closed hs)
      | some before =>
          have hopen := open_of_some laws hs
          rw [hopen]
          refine Action.Ensures.attempt_bind (ensures_inside ihbody h hopen) ?_
          rintro outcome t ⟨hleft, hstays⟩
          exact (ih outcome).after hleft hstays

/-- A table is made searchable, and the client goes on with what it then has at hand. -/
theorem Errand.ensures_indexed (laws : db.store.KeepsIndex name index saved) {handle : ι}
    {columns : List Identifier} (ne : columns ≠ []) (takes : db.store.TakesIndex name columns)
    (hname : (s.2.handles handle).name = name)
    (own : ∀ column ∈ columns, column ∈ (s.2.handles handle).schemaColumns)
    {given : columns.map (·.toValue) ≠ []} {next : Except Fault Table → Errand ι}
    {post : Except Fault Unit → σ × Desk σ ι → Prop}
    (hnext : ∀ t table, table = { s.2.handles handle with searchColumns := some columns } →
      index t = some (SearchIndex.columnNames columns) → saved t = saved s.1 →
      ((next (.ok table)).action db).Ensures
        (Desk.note (.indexed handle (columns.map (·.toValue))) (Desk.keep handle table (t, s.2)))
        post) :
    ((Errand.searchable handle (columns.map (·.toValue)) given next).action db).Ensures s post := by
  subst hname
  have hsearchable := Table.ensures_searchable_ok (laws.beside (Desk σ ι)) (desk_of_send db)
    (takes.beside _) ne own s
  refine (Action.Gives.state s).bind (Action.Ensures.attempt_bind hsearchable ?_)
  rintro outcome ⟨t, desk⟩ ⟨rfl, hindex, hsaved, hdesk⟩
  obtain rfl : desk = s.2 := hdesk
  exact (Action.Gives.modifyState _ _).bind (hnext t _ rfl hindex hsaved)

/-- A body that fails in an outermost transaction is undone; what the client has at hand is not. -/
theorem Errand.ensures_undone (laws : db.store.KeepsIndex name index saved)
    {columns : List Identifier} (takes : db.store.TakesIndex name columns)
    (hnone : saved s.1 = none) {body : Errand ι} {next : Except Fault Unit → Errand ι}
    (P : Desk σ ι → Prop) {post : Except Fault Unit → σ × Desk σ ι → Prop}
    (hbody : ∀ t, index t = index s.1 → saved t = some (index s.1) →
      (body.action db).Ensures (Desk.note (.entered true) (t, s.2)) fun outcome u =>
        outcome.toBool = false ∧ saved u.1 = some (index s.1) ∧ P u.2)
    (hnext : ∀ outcome t desk, index t = index s.1 → saved t = none → P desk →
      ((next outcome).action db).Ensures (Desk.note (.left true true false) (t, desk)) post) :
    ((Errand.transact body next).action db).Ensures s post := by
  have atomic := (laws.beside (Desk σ ι)).atomic
  have takes' := takes.beside (Desk σ ι)
  have hclosed := closed_of_none laws hnone
  have hbegun : ∀ reply t, (db.atDesk ι).store.send s Database.beginStatement = (.ok reply, t) →
      (do
        Action.modifyState (Desk.note (.entered true))
        body.action db).Ensures t fun outcome u =>
          outcome.toBool = false ∧ saved u.1 = some (index s.1) ∧ P u.2 := by
    rintro reply ⟨t, desk⟩ hsend
    obtain rfl : desk = s.2 := Table.kept_of_send (desk_of_send db) hsend
    obtain ⟨hindex, hsaved⟩ := atomic.begun _ _ _ hnone hsend
    exact (Action.Gives.modifyState _ _).bind (hbody t hindex hsaved)
  refine (Database.gives_inTransaction (db.atDesk ι) s).bind ?_
  rw [hclosed]
  have hundone : ((db.atDesk ι).transaction (do
      Action.modifyState (Desk.note (.entered true))
      body.action db)).Ensures s fun outcome t =>
        outcome.toBool = false ∧ index t.1 = index s.1 ∧ saved t.1 = none ∧ P t.2 := by
    refine Database.ensures_outermost hclosed ?_ hbegun ?_
    · intro fault t hsend
      obtain ⟨_, _, hbegun⟩ := takes'.begun s hclosed
      cases hbegun.symm.trans hsend
    · rintro ended u sendings outcome t ⟨hended, hsaved, hdesk⟩ hc
      have hkept : t.2 = u.2 := Table.kept_of_chain (desk_of_send db) hc.chain
      cases ended with
      | ok value => cases hended
      | error fault =>
          obtain ⟨hfailed, hindex, hnone⟩ :=
            hc.undone atomic hsaved (takes'.rolledBack u (open_of_some laws hsaved))
          exact ⟨hfailed, hindex, hnone, hkept ▸ hdesk⟩
  refine Action.Ensures.attempt_bind hundone ?_
  rintro outcome ⟨t, desk⟩ ⟨hfailed, hindex, hnone, hdesk⟩
  have hleave : Desk.leave db true outcome (t, desk) =
      Desk.note (.left true true false) (t, desk) := by
    rw [Desk.leave, hfailed, laws.atomic.isOpen, hnone]
    rfl
  refine (Action.Gives.modifyState _ _).bind ?_
  show ((next outcome).action db).Ensures (Desk.leave db true outcome (t, desk)) post
  rw [hleave]
  exact hnext outcome t desk hindex hnone hdesk

/-- At every moment what a handle remembers are the columns it was last made searchable over, and
the index has the columns of the call that stands last. Where these are the same, a search through
the handle numbers each column as the index does. -/
theorem Errand.columns_that_stand (laws : db.store.KeepsIndex name index saved) (errand : Errand ι)
    {handles : ι → Table} (named : ∀ handle, (handles handle).name = name)
    (fresh : ∀ handle, (handles handle).searchColumns = none) (state : σ) (journal : List Entry)
    {later earlier : List (Moment σ ι)} {moment : Moment σ ι}
    (hm : ((errand.action db).runFrom ⟨(state, ⟨handles, []⟩), journal⟩).2.state.2.history =
      later ++ moment :: earlier) :
    Remembered index moment.handles (moment :: earlier) ∧
      Expects (standing (moment :: earlier)).columns (index moment.state) ∧
      ∀ handle columns, (moment.handles handle).searchColumns = some columns →
        (standing (moment :: earlier)).columns = some (columns.map (·.toValue)) →
          index moment.state = some (SearchIndex.columnNames columns) ∧
          ∀ query options limit statement,
            SearchQuery.statement (moment.handles handle).name.toValue (columns.map (·.toValue))
              query options limit = .ok statement →
            ∃ projection, readProjection statement.sql = some projection ∧
              Addresses (SearchIndex.columnNames columns) options projection := by
  have hstart : Orderly name index saved (state, ⟨handles, []⟩) := .start named fresh state
  obtain ⟨horderly, -⟩ := errand.keepsOrder laws _ hstart journal
  have hsound := horderly.always _ _ _ hm
  refine ⟨hsound.remembered, hsound.tells.now, fun handle columns _ hstanding => ?_⟩
  have hindex : index moment.state = some (SearchIndex.columnNames columns) := by
    obtain ⟨found, hfound, htexts⟩ := Option.map_eq_some_iff.1 (hsound.tells.now _ hstanding)
    rw [hfound, Table.columnNames_eq htexts.symm]
  refine ⟨hindex, fun query options limit statement hstatement => ?_⟩
  have hnodup : columns.Nodup := (laws.distinct _ _ hindex).of_map _
  obtain ⟨-, snippet, conditions, hsql, hs, hp⟩ := SearchQuery.statement_ok hstatement
  have hread := SearchQuery.readProjection_text (moment.handles handle).name columns query options
    snippet conditions
  rw [← hsql] at hread
  exact ⟨_, hread, SearchQuery.addresses_projected _ hnodup hs hp⟩

end Errands

/-! ## Two handles of a table with two columns -/

section TwoColumns

variable (name first second : Identifier)

def twoColumns : Table where
  name := name
  schema := [(first, .text "TEXT"), (second, .text "TEXT")]

/-- One handle is made searchable over both columns, and then another in the other order. -/
def permuting : Errand Bool :=
  .searchable false ([first, second].map (·.toValue)) (List.cons_ne_nil _ _) fun _ =>
    .searchable true ([second, first].map (·.toValue)) (List.cons_ne_nil _ _) fun _ =>
      .done (.ok ())

/-- The other handle is made searchable in a transaction that fails. -/
def undoing : Errand Bool :=
  .searchable false ([first, second].map (·.toValue)) (List.cons_ne_nil _ _) fun _ =>
    .transact
      (.searchable true ([second, first].map (·.toValue)) (List.cons_ne_nil _ _) fun _ =>
        .done (.error Catalogue.refusal))
      .done

variable {name first second}

theorem own_columns :
    ∀ column ∈ [first, second], column ∈ (twoColumns name first second).schemaColumns :=
  fun _ h => h

theorem own_swapped :
    ∀ column ∈ [second, first], column ∈ (twoColumns name first second).schemaColumns :=
  fun _ h => List.Perm.mem_iff (.swap _ _ _) |>.1 h

theorem takes_columns (h : first ≠ second) :
    (Catalogue.database name).store.TakesIndex name [first, second] :=
  Catalogue.takesIndex name (List.cons_ne_nil _ _) (by simpa using h)

theorem ensures_permuting (name : Identifier) (h : first ≠ second) :
    ((permuting first second).action (Catalogue.database name)).Ensures
      ({}, ⟨fun _ => twoColumns name first second, []⟩) fun _ t => ∃ moment ∈ t.2.history,
        (moment.handles false).searchColumns = some [first, second] ∧
          moment.state.declared = some [second.text, first.text] := by
  refine Errand.ensures_indexed (Catalogue.keepsIndex name) (List.cons_ne_nil _ _)
    (takes_columns h) rfl own_columns fun t table htable _ _ => ?_
  refine Errand.ensures_indexed (Catalogue.keepsIndex name) (List.cons_ne_nil _ _)
    (takes_columns h.symm) rfl own_swapped fun u other _ hindex _ => ?_
  subst htable
  exact .ofExcept ⟨_, List.mem_cons_self, rfl, hindex⟩

theorem ensures_undoing (name : Identifier) (h : first ≠ second) :
    ((undoing first second).action (Catalogue.database name)).Ensures
      ({}, ⟨fun _ => twoColumns name first second, []⟩) fun _ t => ∃ later moment earlier,
        t.2.history = later ++ moment :: earlier ∧
        (moment.handles false).name = name ∧
        (moment.handles false).searchColumns = some [first, second] ∧
        (moment.handles true).searchColumns = some [second, first] ∧
        (standing (moment :: earlier)).columns = some ([first, second].map (·.toValue)) := by
  refine Errand.ensures_indexed (Catalogue.keepsIndex name) (List.cons_ne_nil _ _)
    (takes_columns h) rfl own_columns fun t table htable _ hsaved => ?_
  subst htable
  refine Errand.ensures_undone (Catalogue.keepsIndex name) (takes_columns h.symm) hsaved
    (fun desk => (desk.handles false).name = name ∧
      (desk.handles false).searchColumns = some [first, second] ∧
      (desk.handles true).searchColumns = some [second, first] ∧
      (standing desk.history).saved = some (some ([first, second].map (·.toValue)))) ?_ ?_
  · intro u _ hu
    refine Errand.ensures_indexed (Catalogue.keepsIndex name) (List.cons_ne_nil _ _)
      (takes_columns h.symm) rfl own_swapped fun v other hother _ hv => ?_
    subst hother
    exact .ofExcept ⟨rfl, hv.trans hu, rfl, rfl, rfl, rfl⟩
  · intro outcome u desk _ _ hdesk
    refine .ofExcept ⟨[], _, _, rfl, hdesk.1, hdesk.2.1, hdesk.2.2.1, ?_⟩
    show (standing desk.history).saved.getD _ = _
    rw [hdesk.2.2.2]
    rfl

end TwoColumns

/-- A handle may remember columns that the index does not have. -/
theorem permuting_leaves_stale :
    (Catalogue.database ⟨"notes", by decide⟩).store.KeepsIndex ⟨"notes", by decide⟩
      Catalogue.declared Catalogue.returning ∧
    ¬ ∀ moment ∈ (((permuting ⟨"title", by decide⟩ ⟨"body", by decide⟩).action
        (Catalogue.database ⟨"notes", by decide⟩)).runFrom
          ⟨({}, ⟨fun _ => twoColumns ⟨"notes", by decide⟩ ⟨"title", by decide⟩
            ⟨"body", by decide⟩, []⟩), []⟩).2.state.2.history,
      ∀ handle columns, (moment.handles handle).searchColumns = some columns →
        moment.state.declared = some (SearchIndex.columnNames columns) := by
  refine ⟨Catalogue.keepsIndex _, fun hall => ?_⟩
  have hdistinct : (⟨"title", by decide⟩ : Identifier) ≠ ⟨"body", by decide⟩ := by decide
  obtain ⟨moment, hm, hcolumns, hindex⟩ :=
    ensures_permuting ⟨"notes", by decide⟩ hdistinct []
  have hsame := hindex.symm.trans (hall moment hm false _ hcolumns)
  revert hsame
  decide

/-- The columns of the first handle stand again, and it numbers them as the index does. -/
theorem undoing_columns_stand : ∃ (later earlier : List (Moment Catalogue Bool))
    (moment : Moment Catalogue Bool) (statement : Statement) (projection : List Projected),
    (((undoing ⟨"title", by decide⟩ ⟨"body", by decide⟩).action
      (Catalogue.database ⟨"notes", by decide⟩)).runFrom
        ⟨({}, ⟨fun _ => twoColumns ⟨"notes", by decide⟩ ⟨"title", by decide⟩
          ⟨"body", by decide⟩, []⟩), []⟩).2.state.2.history = later ++ moment :: earlier ∧
    (moment.handles false).searchColumns =
      some [⟨"title", by decide⟩, ⟨"body", by decide⟩] ∧
    (moment.handles true).searchColumns =
      some [⟨"body", by decide⟩, ⟨"title", by decide⟩] ∧
    moment.state.declared = some ["title", "body"] ∧
    SearchQuery.statement (moment.handles false).name.toValue [.text "title", .text "body"]
      "draft" { highlight := true } (.int 20) = .ok statement ∧
    readProjection statement.sql = some projection ∧
    Addresses ["title", "body"] { highlight := true } projection := by
  have hdistinct : (⟨"title", by decide⟩ : Identifier) ≠ ⟨"body", by decide⟩ := by decide
  obtain ⟨later, moment, earlier, hm, hname, hfirst, hsecond, hstanding⟩ :=
    ensures_undoing ⟨"notes", by decide⟩ hdistinct []
  obtain ⟨-, -, hall⟩ := Errand.columns_that_stand (Catalogue.keepsIndex ⟨"notes", by decide⟩)
    (undoing ⟨"title", by decide⟩ ⟨"body", by decide⟩) (fun _ => rfl) (fun _ => rfl) _ _ hm
  obtain ⟨hindex, haddresses⟩ := hall false _ hfirst hstanding
  have hstatement : ∃ statement, SearchQuery.statement (moment.handles false).name.toValue
      [.text "title", .text "body"] "draft" { highlight := true } (.int 20) = .ok statement := by
    rw [hname]
    exact ⟨_, rfl⟩
  obtain ⟨statement, hstatement⟩ := hstatement
  obtain ⟨projection, hread, haddresses⟩ := haddresses _ _ _ _ hstatement
  exact ⟨later, earlier, moment, statement, projection, hm, hfirst, hsecond, hindex, hstatement,
    hread, haddresses⟩

end TableRecords
