import Mathlib
import TableRecords.Proofs.Search.Indexing

/-! # Handles

Several handles of one table share its search index, and each remembers the columns it was last made
searchable over. A client makes the table searchable through one or another of them, searches, and
runs bodies in transactions that may fail. What it did tells which call stands last, and so which
columns the index has.
-/

namespace TableRecords

variable {σ ι : Type}

/-- What a client does with the handles of a table. It goes on from every outcome as it likes. -/
inductive Errand (ι : Type) where
  | done (outcome : Except Fault Unit)
  | searchable (handle : ι) (columns : List Value) (ne : columns ≠ [])
      (next : Except Fault Table → Errand ι)
  | search (handle : ι) (query : String) (argument : SearchArgument)
      (next : Except Fault (List Record) → Errand ι)
  | transact (body : Errand ι) (next : Except Fault Unit → Errand ι)

inductive Deed (ι : Type) where
  | indexed (handle : ι) (columns : List Value)
  /-- A table could not be made searchable, and its index may be left halfway. -/
  | failed (handle : ι) (columns : List Value) (halfway : Bool)
  | searched (handle : ι)
  | entered (outermost : Bool)
  | left (outermost failed isOpen : Bool)

/-- What was done, and how things stand after it. -/
structure Moment (σ ι : Type) where
  deed : Deed ι
  state : σ
  handles : ι → Table

/-- The handles of a client, and what it did so far, newest first. -/
structure Desk (σ ι : Type) where
  handles : ι → Table
  history : List (Moment σ ι) := []

/-- The database as a client with a desk uses it. -/
def Database.atDesk (db : Database σ) (ι : Type) : Database (σ × Desk σ ι) where
  store := db.store.beside (Desk σ ι)
  path := db.path
  settings := db.settings

namespace Desk

def note (deed : Deed ι) (s : σ × Desk σ ι) : σ × Desk σ ι :=
  (s.1, { s.2 with history := ⟨deed, s.1, s.2.handles⟩ :: s.2.history })

def keep [DecidableEq ι] (handle : ι) (table : Table) (s : σ × Desk σ ι) : σ × Desk σ ι :=
  (s.1, { s.2 with handles := Function.update s.2.handles handle table })

/-- Notes how a call to make a table searchable ended. A failure leaves the index halfway only if
the columns were valid and no transaction of its own was rolled back. -/
def settle [DecidableEq ι] (db : Database σ) (handle : ι) (columns : List Value) (wasOpen : Bool)
    (outcome : Except Fault Table) (s : σ × Desk σ ι) : σ × Desk σ ι :=
  match outcome with
  | .ok table => note (.indexed handle columns) (keep handle table s)
  | .error _ =>
    let valid := ((s.2.handles handle).searchColumnsOf columns).toBool
    note (.failed handle columns (valid && (wasOpen || db.store.inTransaction s.1))) s

def leave (db : Database σ) (outermost : Bool) (outcome : Except Fault Unit) (s : σ × Desk σ ι) :
    σ × Desk σ ι :=
  note (.left outermost (!outcome.toBool) (db.store.inTransaction s.1)) s

end Desk

def Errand.action [DecidableEq ι] (db : Database σ) : Errand ι → Action (σ × Desk σ ι) Unit
  | done outcome => Action.ofExcept outcome
  | searchable handle columns _ next => do
    let s ← Action.state
    let outcome ← ((s.2.handles handle).searchable (db.atDesk ι) columns).attempt
    Action.modifyState (Desk.settle db handle columns (db.store.inTransaction s.1) outcome)
    (next outcome).action db
  | search handle query argument next => do
    let s ← Action.state
    let outcome ← ((s.2.handles handle).search (db.atDesk ι) query argument).attempt
    Action.modifyState (Desk.note (.searched handle))
    (next outcome).action db
  | transact body next => do
    let isOpen ← (db.atDesk ι).inTransaction
    let outcome ← ((db.atDesk ι).transaction (do
      Action.modifyState (Desk.note (.entered !isOpen))
      body.action db)).attempt
    Action.modifyState (Desk.leave db (!isOpen) outcome)
    (next outcome).action db

/-- The columns of the call that stands last, if it is known, and while a transaction is open those
that stand again if it is rolled back. -/
structure Standing where
  columns : Option (List Value) := none
  saved : Option (Option (List Value)) := none

/-- A call that succeeded stands until a transaction around it fails. Nothing is known after a call
that failed halfway, or where a transaction that failed is left open. -/
def Standing.after (standing : Standing) : Deed ι → Standing
  | .indexed _ columns => { standing with columns := some columns }
  | .failed _ _ halfway => if halfway then { standing with columns := none } else standing
  | .searched _ | .entered false | .left false _ _ => standing
  | .entered true => { standing with saved := some standing.columns }
  | .left true false _ => { standing with saved := none }
  | .left true true isOpen =>
    if isOpen then { standing with columns := none }
    else { columns := standing.saved.getD standing.columns }

theorem Standing.saved_after_failed (standing : Standing) (handle : ι) (columns : List Value)
    (halfway : Bool) :
    (standing.after (.failed handle columns halfway)).saved = standing.saved := by
  cases halfway <;> rfl

def standing : List (Moment σ ι) → Standing
  | [] => {}
  | moment :: earlier => (standing earlier).after moment.deed

variable {index : σ → Option (List String)} {saved : σ → Option (Option (List String))}
  {name : Identifier}

/-- Whether an index has the columns that are expected, if any are. -/
def Expects (expected : Option (List Value)) (columns : Option (List String)) : Prop :=
  ∀ given, expected = some given → columns.map (·.map .text) = some given

theorem Expects.none (columns : Option (List String)) : Expects none columns :=
  fun _ he => by cases he

/-- Whether the store is in the state that a standing tells. -/
structure Standing.Tells (standing : Standing) (index : σ → Option (List String))
    (saved : σ → Option (Option (List String))) (s : σ) : Prop where
  now : Expects standing.columns (index s)
  back : ∀ expected before, standing.saved = some expected → saved s = some before →
    Expects expected before
  closed : saved s = none → standing.saved = none

namespace Standing.Tells

variable {standing : Standing} {s t : σ}

theorem start : ({} : Standing).Tells index saved s where
  now := .none _
  back _ _ he := by cases he
  closed _ := rfl

theorem same (h : standing.Tells index saved s) (hi : index t = index s) (hs : saved t = saved s) :
    standing.Tells index saved t where
  now := by
    rw [hi]
    exact h.now
  back := by
    rw [hs]
    exact h.back
  closed := by
    rw [hs]
    exact h.closed

/-- An attempt to change the index leaves what a transaction could return to. -/
theorem back_of_change (h : standing.Tells index saved s)
    (inside : ∀ before, saved s = some before → saved t = some before)
    (expected : Option (List Value)) (before : Option (List String))
    (he : standing.saved = some expected)
    (hb : saved t = some before) : Expects expected before := by
  cases hs : saved s with
  | none =>
      rw [h.closed hs] at he
      cases he
  | some other =>
      obtain rfl : other = before := Option.some.inj ((inside other hs).symm.trans hb)
      exact h.back expected other he hs

theorem closed_of_change (h : standing.Tells index saved s)
    (inside : ∀ before, saved s = some before → saved t = some before) (hn : saved t = none) :
    standing.saved = none := by
  cases hs : saved s with
  | none => exact h.closed hs
  | some other =>
      rw [inside other hs] at hn
      cases hn

theorem indexed (h : standing.Tells index saved s) (handle : ι) {columns : List Value}
    (hi : (index t).map (·.map .text) = some columns)
    (inside : ∀ before, saved s = some before → saved t = some before) :
    (standing.after (.indexed handle columns)).Tells index saved t where
  now given hgiven := by
    cases hgiven
    exact hi
  back := h.back_of_change inside
  closed := h.closed_of_change inside

theorem failed (h : standing.Tells index saved s) (handle : ι) (columns : List Value) (valid : Bool)
    (inside : ∀ before, saved s = some before → saved t = some before)
    (undone : saved s = none → saved t = none → index t = index s)
    (unsent : valid = false → t = s) :
    (standing.after (.failed handle columns
      (valid && ((saved s).isSome || (saved t).isSome)))).Tells index saved t := by
  cases valid with
  | false =>
      obtain rfl := unsent rfl
      exact h
  | true =>
      by_cases hclosed : saved s = none ∧ saved t = none
      · rw [hclosed.1, hclosed.2]
        exact h.same (undone hclosed.1 hclosed.2) (hclosed.2.trans hclosed.1.symm)
      · have hopen : ((saved s).isSome || (saved t).isSome) = true := by
          cases hs : saved s <;> cases ht : saved t <;> simp_all
        rw [hopen]
        exact ⟨.none _, h.back_of_change inside, h.closed_of_change inside⟩

theorem entered (h : standing.Tells index saved s) (hi : index t = index s)
    (hs : saved t = some (index s)) :
    (standing.after (.entered true : Deed ι)).Tells index saved t where
  now := by
    rw [hi]
    exact h.now
  back expected before he hb := by
    rw [hs] at hb
    cases hb
    cases he
    exact h.now
  closed hn := by
    rw [hs] at hn
    cases hn

/-- After a transaction what stood before it is known again, if it was rolled back. -/
theorem left (h : standing.Tells index saved s) {expected : Option (List Value)}
    (hentered : standing.saved = some expected) {outcome : Except Fault Unit}
    (hs : Store.Settled index saved s t outcome) :
    (standing.after (.left true (!outcome.toBool) (saved t).isSome : Deed ι)).Tells index saved
      t := by
  cases hs with
  | committed hi hn =>
      refine ⟨?_, fun _ _ he => (by cases he), fun _ => rfl⟩
      rw [hi]
      exact h.now
  | returned hb hi hn =>
      rw [hn]
      refine ⟨?_, fun _ _ he => (by cases he), fun _ => rfl⟩
      show Expects (standing.saved.getD standing.columns) (index t)
      rw [hentered, hi]
      exact h.back expected _ hentered hb
  | refused hi hk =>
      cases hb : saved s with
      | none =>
          rw [h.closed hb] at hentered
          cases hentered
      | some before =>
          have hopen := hk.trans hb
          rw [hopen]
          refine ⟨.none _, fun expected other he hother => ?_, fun hn => ?_⟩
          · exact h.back expected other he (hk.symm.trans hother)
          · rw [hopen] at hn
            cases hn

/-- A transaction that could not be begun leaves what stood. -/
theorem unbegun (h : standing.Tells index saved s) (hn : saved s = none) (hi : index t = index s)
    (hs : saved t = saved s) :
    (standing.after (.left true true (saved t).isSome : Deed ι)).Tells index saved t := by
  rw [hs, hn]
  refine ⟨?_, fun _ _ he => (by cases he), fun _ => rfl⟩
  show Expects (standing.saved.getD standing.columns) (index t)
  rw [h.closed hn, hi]
  exact h.now

end Standing.Tells

/-! ## What is remembered -/

/-- A handle that remembers columns was made searchable over them when it last was, and the index
had them then. -/
def Remembered (index : σ → Option (List String)) (handles : ι → Table)
    (history : List (Moment σ ι)) : Prop :=
  ∀ handle columns, (handles handle).searchColumns = some columns →
    ∃ since built before, history = since ++ built :: before ∧
      built.deed = .indexed handle (columns.map (·.toValue)) ∧
      (∀ moment ∈ since, ∀ other, moment.deed ≠ .indexed handle other) ∧
      index built.state = some (SearchIndex.columnNames columns)

namespace Remembered

variable {handles : ι → Table} {history : List (Moment σ ι)}

theorem cons (h : Remembered index handles history) {moment : Moment σ ι}
    (hm : ∀ handle other, moment.deed ≠ .indexed handle other) :
    Remembered index handles (moment :: history) := by
  intro handle columns hcolumns
  obtain ⟨since, built, before, rfl, hbuilt, hlast, hindex⟩ := h handle columns hcolumns
  refine ⟨moment :: since, built, before, rfl, hbuilt, ?_, hindex⟩
  intro other hother
  rcases List.mem_cons.1 hother with rfl | hother
  · exact hm handle
  · exact hlast other hother

theorem indexed [DecidableEq ι] (h : Remembered index handles history) {handle : ι} {table : Table}
    {columns : List Identifier} {moment : Moment σ ι} (ht : table.searchColumns = some columns)
    (hm : moment.deed = .indexed handle (columns.map (·.toValue)))
    (hi : index moment.state = some (SearchIndex.columnNames columns)) :
    Remembered index (Function.update handles handle table) (moment :: history) := by
  intro other found hfound
  by_cases hother : other = handle
  · subst hother
    rw [Function.update_self, ht] at hfound
    cases hfound
    exact ⟨[], moment, history, rfl, hm, fun _ hnone => (by cases hnone), hi⟩
  · rw [Function.update_of_ne hother] at hfound
    obtain ⟨since, built, before, rfl, hbuilt, hlast, hindex⟩ := h other found hfound
    refine ⟨moment :: since, built, before, rfl, hbuilt, ?_, hindex⟩
    intro later hlater given hgiven
    rcases List.mem_cons.1 hlater with rfl | hlater
    · rw [hm] at hgiven
      cases hgiven
      exact hother rfl
    · exact hlast later hlater given hgiven

end Remembered

/-- Whether what a client knows is so in a state of the store. -/
structure Sound (name : Identifier) (index : σ → Option (List String))
    (saved : σ → Option (Option (List String))) (s : σ) (desk : Desk σ ι) : Prop where
  named : ∀ handle, (desk.handles handle).name = name
  remembered : Remembered index desk.handles desk.history
  tells : (standing desk.history).Tells index saved s

theorem Sound.named_update [DecidableEq ι] {s : σ} {desk : Desk σ ι}
    (h : Sound name index saved s desk) (handle : ι) {table : Table}
    (ht : table.name = (desk.handles handle).name) (other : ι) :
    (Function.update desk.handles handle table other).name = name := by
  by_cases hother : other = handle
  · subst hother
    rw [Function.update_self, ht]
    exact h.named other
  · rw [Function.update_of_ne hother]
    exact h.named other

/-- Whether what a client knows is so, and was so at every moment. -/
structure Orderly (name : Identifier) (index : σ → Option (List String))
    (saved : σ → Option (Option (List String))) (s : σ × Desk σ ι) : Prop where
  now : Sound name index saved s.1 s.2
  always : ∀ later moment earlier, s.2.history = later ++ moment :: earlier →
    Sound name index saved moment.state ⟨moment.handles, moment :: earlier⟩

/-- Whether a transaction that is open stays open, and the columns that stand again if it is rolled
back stay the same. -/
def Stays (saved : σ → Option (Option (List String))) (s t : σ × Desk σ ι) : Prop :=
  ∀ before, saved s.1 = some before → saved t.1 = some before ∧
    (standing t.2.history).saved = (standing s.2.history).saved

theorem Stays.refl (s : σ × Desk σ ι) : Stays saved s s := fun _ hs => ⟨hs, rfl⟩

theorem Stays.of_closed {s t : σ × Desk σ ι} (h : saved s.1 = none) : Stays saved s t := by
  intro before hs
  rw [h] at hs
  cases hs

theorem Stays.trans {s t u : σ × Desk σ ι} (h : Stays saved s t) (h' : Stays saved t u) :
    Stays saved s u := by
  intro before hs
  obtain ⟨ht, hst⟩ := h before hs
  obtain ⟨hu, htu⟩ := h' before ht
  exact ⟨hu, htu.trans hst⟩

theorem Stays.note {s t : σ × Desk σ ι} (hd : t.2 = s.2)
    (inside : ∀ before, saved s.1 = some before → saved t.1 = some before) {deed : Deed ι}
    (hs : ((standing s.2.history).after deed).saved = (standing s.2.history).saved) :
    Stays saved s (Desk.note deed t) := by
  intro before hbefore
  refine ⟨inside before hbefore, ?_⟩
  rw [← hs, ← hd]
  rfl

namespace Orderly

variable {s t : σ × Desk σ ι}

theorem start {handles : ι → Table} (named : ∀ handle, (handles handle).name = name)
    (hnone : ∀ handle, (handles handle).searchColumns = none) (state : σ) :
    Orderly name index saved (state, ⟨handles, []⟩) where
  now := by
    refine ⟨named, fun handle columns h => ?_, .start⟩
    rw [hnone handle] at h
    cases h
  always later moment earlier h := by cases later <;> cases h

theorem noted (h : Orderly name index saved s) {deed : Deed ι} {state : σ} {handles : ι → Table}
    (hs : Sound name index saved state ⟨handles, ⟨deed, state, handles⟩ :: s.2.history⟩) :
    Orderly name index saved (state, ⟨handles, ⟨deed, state, handles⟩ :: s.2.history⟩) where
  now := hs
  always later moment earlier hl := by
    cases later with
    | nil =>
        cases hl
        exact hs
    | cons other later =>
        exact h.always later moment earlier (List.cons.inj hl).2

theorem note (h : Orderly name index saved s) (hd : t.2 = s.2) {deed : Deed ι}
    (hm : ∀ handle other, deed ≠ .indexed handle other)
    (ht : ((standing s.2.history).after deed).Tells index saved t.1) :
    Orderly name index saved (Desk.note deed t) := by
  have hnote : Desk.note deed t =
      (t.1, ⟨s.2.handles, ⟨deed, t.1, s.2.handles⟩ :: s.2.history⟩) := by rw [Desk.note, hd]
  rw [hnote]
  exact h.noted ⟨h.now.named, h.now.remembered.cons hm, ht⟩

variable [DecidableEq ι] {db : Database σ}

theorem settle (h : Orderly name index saved s)
    (isOpen : ∀ s, db.store.inTransaction s = (saved s).isSome)
    (handle : ι) (columns : List Value) {outcome : Except Fault Table}
    (hc : Table.IndexChange (fun s => index s.1) (fun s => saved s.1) Prod.snd s outcome.toBool t)
    (hok : ∀ next, outcome = .ok next → ∃ identifiers,
      next = { s.2.handles handle with searchColumns := some identifiers } ∧
        columns = identifiers.map (·.toValue) ∧
        index t.1 = some (SearchIndex.columnNames identifiers))
    (hu : ((s.2.handles handle).searchColumnsOf columns).toBool = false → t = s) :
    Orderly name index saved
        (Desk.settle db handle columns (db.store.inTransaction s.1) outcome t) ∧
      Stays saved s (Desk.settle db handle columns (db.store.inTransaction s.1) outcome t) := by
  have hdesk : t.2 = s.2 := hc.kept
  cases outcome with
  | error fault =>
      unfold Desk.settle
      rw [isOpen, isOpen, hdesk]
      refine ⟨h.note hdesk (fun _ _ hd => by cases hd) ?_,
        .note hdesk hc.inside (Standing.saved_after_failed _ _ _ _)⟩
      exact h.now.tells.failed handle columns _ hc.inside (hc.undone rfl)
        fun hv => congrArg Prod.fst (hu hv)
  | ok next =>
      obtain ⟨identifiers, hnext, rfl, hindex⟩ := hok next rfl
      have hname : next.name = (s.2.handles handle).name := by rw [hnext]
      have hcolumns : next.searchColumns = some identifiers := by rw [hnext]
      have hlook : (index t.1).map (·.map .text) = some (identifiers.map (·.toValue)) := by
        rw [hindex, Option.map_some, SearchIndex.columnNames, List.map_map]
        rfl
      have hsettled : Desk.settle db handle (identifiers.map (·.toValue))
          (db.store.inTransaction s.1) (.ok next) t =
            Desk.note (.indexed handle (identifiers.map (·.toValue)))
              (t.1, ⟨Function.update s.2.handles handle next, s.2.history⟩) := by
        rw [← hdesk]
        rfl
      rw [hsettled]
      refine ⟨h.noted ⟨h.now.named_update handle hname, ?_, ?_⟩,
        fun before hs => ⟨hc.inside before hs, rfl⟩⟩
      · exact h.now.remembered.indexed hcolumns rfl hindex
      · exact h.now.tells.indexed handle hlook hc.inside

end Orderly

end TableRecords
