import Mathlib
import TableRecords.Proofs.Search.Hits
import TableRecords.Proofs.Store.Sendings

/-! # Findings

What a search makes of the rows that it is answered with. Each row becomes a record with what was
found out about it, if every highlight is a text. A column that is null in a row has no highlight
there; the first such row ends the search, and its columns without highlight are reported.
-/

namespace TableRecords

namespace Checked

variable {α β : Type}

theorem problems_both (f : Checked (α → β)) (a : Checked α) :
    (both f a).problems = f.problems ++ a.problems := by
  obtain ⟨f⟩ := f
  obtain ⟨a⟩ := a
  cases f <;> cases a <;> rfl

theorem problems_map (f : α → β) (a : Checked α) : (f <$> a).problems = a.problems :=
  problems_both (passed f) a

theorem problems_each (check : α → Checked β) (as : List α) :
    (each check as).problems = as.flatMap fun a => (check a).problems := by
  induction as with
  | nil => rfl
  | cons a as ih =>
      have hboth := problems_both ((· :: ·) <$> check a) (each check as)
      rw [problems_map, ih] at hboth
      exact hboth

theorem outcome_of_problems {a : Checked α} (h : a.problems ≠ []) :
    a.outcome = .error a.problems := by
  obtain ⟨outcome⟩ := a
  cases outcome with
  | ok a => exact absurd rfl h
  | error problems => rfl

end Checked

namespace Annotations

/-- A row as a search is answered with: columns of its table, the primary key among them, and what
was computed under given names. A text that was computed may be null. -/
structure IsShaped (names : List String) (row : Fields) : Prop where
  keyed : primaryKey.toValue ∈ row.keys
  named : ∀ key ∈ row.keys, ∃ name, key = .text name
  computed : ∀ name, isComputed name = true → (.text name ∈ row.keys ↔ name ∈ names)
  rank : ∀ v, (.text rankColumn, v) ∈ row.entries → ∃ x, v = .real x
  snippet : ∀ v, (.text snippetColumn, v) ∈ row.entries →
    ∃ snippet, v = SearchOptions.orNull .text snippet
  highlights : ∀ c v, (.text (highlightMark ++ c), v) ∈ row.entries →
    ∃ highlight, v = SearchOptions.orNull .text highlight

def nullHighlight? : Value × Value → Option String
  | (.text name, .null) => highlighted? name
  | _ => none

/-- The columns that have no highlight in a row, though it was asked for. -/
def nullHighlights (row : Fields) : List String := row.entries.filterMap nullHighlight?

def highlightProblem (column : String) : Problem :=
  ⟨[.name "highlights", .name column], .stringType⟩

/-- What was found out about a row stands in it under the names of its computed columns. -/
structure AreFound (row : Fields) (annotations : Annotations) : Prop where
  rank : (.text rankColumn, .real annotations.rank) ∈ row.entries
  snippet : ∀ s, annotations.snippet = some s ↔ (.text snippetColumn, .text s) ∈ row.entries
  highlights : ∀ c s, (c, s) ∈ annotations.highlights ↔
    (.text (highlightMark ++ c), .text s) ∈ row.entries

variable {names : List String} {row : Fields} {columns : List (String × Value)}

theorem mem_named {name : String} {v : Value} :
    (.text name, v) ∈ named columns ↔ (name, v) ∈ columns := by
  rw [named]
  exact List.mem_map_of_injective (a := (name, v)) named_injective

/-- The problems of highlights are those of the ones that are null. -/
theorem problems_marked (h : ∀ c v, (highlightMark ++ c, v) ∈ columns →
      ∃ highlight, v = SearchOptions.orNull .text highlight) :
    (Checked.each marked (markedColumns columns)).problems =
      ((named columns).filterMap nullHighlight?).map highlightProblem := by
  rw [Checked.problems_each]
  induction columns with
  | nil => rfl
  | cons first rest ih =>
      obtain ⟨name, v⟩ := first
      have hrest := ih fun c v hm => h c v (List.mem_cons_of_mem _ hm)
      cases hname : highlighted? name with
      | none =>
          have hmarked : markedColumns ((name, v) :: rest) = markedColumns rest :=
            List.filterMap_cons_none (by rw [hname]; rfl)
          have hnull : nullHighlight? (.text name, v) = none := by
            unfold nullHighlight?
            split
            · rename_i heq
              cases heq
              exact hname
            · rfl
          rw [hmarked, hrest, named, named, List.map_cons, List.filterMap_cons_none hnull]
      | some c =>
          obtain ⟨highlight, rfl⟩ := h c v (by rw [← highlighted_eq_some hname]; simp)
          have hmarked : markedColumns ((name, SearchOptions.orNull .text highlight) :: rest) =
              (c, SearchOptions.orNull .text highlight) :: markedColumns rest :=
            List.filterMap_cons_some (by rw [hname]; rfl)
          rw [hmarked, List.flatMap_cons, hrest, named, named, List.map_cons]
          cases highlight with
          | none =>
              have hnull : nullHighlight? (.text name, .null) = some c := hname
              rw [SearchOptions.orNull, List.filterMap_cons_some hnull]
              rfl
          | some s => rfl

theorem mem_nullHighlights {c : String} :
    c ∈ nullHighlights row ↔ (.text (highlightMark ++ c), .null) ∈ row.entries := by
  rw [nullHighlights, List.mem_filterMap]
  constructor
  · rintro ⟨⟨key, v⟩, hm, hentry⟩
    unfold nullHighlight? at hentry
    split at hentry
    · rename_i heq
      cases heq
      rwa [← highlighted_eq_some hentry]
    · cases hentry
  · exact fun hm => ⟨_, hm, highlighted_append c⟩

namespace IsShaped

variable (h : IsShaped names row)

include h

theorem exists_named : ∃ columns, row.entries = TableRecords.named columns :=
  Annotations.exists_named fun entry he => h.named entry.1 (List.mem_map_of_mem he)

theorem exists_rank (hrank : rankColumn ∈ names) :
    ∃ rank, (.text rankColumn, .real rank) ∈ row.entries := by
  obtain ⟨⟨_, v⟩, hv, heq⟩ := List.mem_map.1 ((h.computed rankColumn (by decide)).2 hrank)
  cases heq
  obtain ⟨rank, rfl⟩ := h.rank v hv
  exact ⟨rank, hv⟩

theorem exists_excerpt (hcolumns : row.entries = TableRecords.named columns) :
    ∃ snippet, Excerpt columns snippet := by
  by_cases hm : snippetColumn ∈ columns.map Prod.fst
  · obtain ⟨⟨_, v⟩, hv, rfl⟩ := List.mem_map.1 hm
    obtain ⟨snippet, rfl⟩ := h.snippet v (by rw [hcolumns, mem_named]; exact hv)
    exact ⟨snippet, by rw [Excerpt, lookup_of_mem (nodup_names hcolumns) hv]; rfl⟩
  · exact ⟨none, by rw [Excerpt, lookup_of_notMem hm]; rfl⟩

end IsShaped

theorem snippet_iff {snippet : Option String} (hcolumns : row.entries = named columns)
    (h : Excerpt columns snippet) (s : String) :
    snippet = some s ↔ (.text snippetColumn, .text s) ∈ row.entries := by
  rw [hcolumns, mem_named]
  constructor
  · rintro rfl
    cases hlookup : columns.lookup snippetColumn with
    | none =>
        rw [Excerpt, hlookup] at h
        cases h
    | some v =>
        rw [Excerpt, hlookup] at h
        cases h
        obtain ⟨before, after, rfl, -⟩ := List.lookup_eq_some_iff.1 hlookup
        simp
  · intro hm
    rw [Excerpt, lookup_of_mem (nodup_names hcolumns) hm] at h
    cases snippet with
    | none => cases h
    | some t =>
        cases h
        rfl

theorem split_of_shaped (h : IsShaped names row) (hrank : rankColumn ∈ names)
    (hnone : nullHighlights row = []) : ∃ annotations,
      split (some row) = .ok (ownColumns row, annotations) ∧ AreFound row annotations := by
  obtain ⟨columns, hcolumns⟩ := h.exists_named
  obtain ⟨rank, hreal⟩ := h.exists_rank hrank
  obtain ⟨snippet, hsnippet⟩ := h.exists_excerpt hcolumns
  have hfilled : ∀ c v, (c, v) ∈ markedColumns columns → ∃ s, v = .text s := by
    intro c v hm
    have hentry : (.text (highlightMark ++ c), v) ∈ row.entries := by
      rw [hcolumns, mem_named]
      exact mem_markedColumns.1 hm
    obtain ⟨highlight, rfl⟩ := h.highlights c v hentry
    cases highlight with
    | none =>
        have hnull := mem_nullHighlights.2 hentry
        rw [hnone] at hnull
        cases hnull
    | some s => exact ⟨s, rfl⟩
  obtain ⟨texts, htexts⟩ := exists_texts hfilled
  have hrankcolumn : (rankColumn, .real rank) ∈ columns := by
    rwa [hcolumns, mem_named] at hreal
  refine ⟨⟨rank, snippet, texts⟩, split_of_named hcolumns hrankcolumn hsnippet htexts, hreal,
    snippet_iff hcolumns hsnippet, fun c s => ?_⟩
  rw [hcolumns, mem_named]
  exact mem_texts htexts

/-- A row in which some are null is refused on their account. -/
theorem split_of_null (h : IsShaped names row) (hrank : rankColumn ∈ names)
    (hsome : nullHighlights row ≠ []) :
    split (some row) = .error (.rejected ((nullHighlights row).map highlightProblem)) := by
  obtain ⟨columns, hcolumns⟩ := h.exists_named
  obtain ⟨rank, hreal⟩ := h.exists_rank hrank
  obtain ⟨snippet, hsnippet⟩ := h.exists_excerpt hcolumns
  have hrankcolumn : (rankColumn, .real rank) ∈ columns := by
    rwa [hcolumns, mem_named] at hreal
  have hlookup := lookup_of_mem (nodup_names hcolumns) hrankcolumn
  have hproblems : (ofColumns columns (.real rank)).problems =
      (nullHighlights row).map highlightProblem := by
    have hhighlights : ∀ c v, (highlightMark ++ c, v) ∈ columns →
        ∃ highlight, v = SearchOptions.orNull .text highlight := fun c v hm =>
      h.highlights c v (by rw [hcolumns, mem_named]; exact hm)
    have hmarked := problems_marked hhighlights
    rw [← hcolumns] at hmarked
    rw [ofColumns, coerce_excerpt hsnippet]
    exact (Checked.problems_both _ _).trans hmarked
  have hne : (ofColumns columns (.real rank)).problems ≠ [] := by
    rw [hproblems]
    simpa using hsome
  refine Outcome.bind_eq_error.2 (.inr ⟨columns, namedColumns_of_named hcolumns, ?_⟩)
  simp only [hlookup]
  refine Outcome.bind_eq_error.2 (.inl ?_)
  rw [Checked.outcome_of_problems hne, hproblems]
  rfl

end Annotations

/-- A row that is passed over or decides how a list of rows is mapped. -/
theorem Outcome.mapM_find {ε α β : Type} {f : α → Except ε β} {R : α → β → Prop}
    {refused : α → Bool} {fault : α → ε} {as : List α}
    (ok : ∀ a ∈ as, refused a = false → ∃ b, f a = .ok b ∧ R a b)
    (error : ∀ a ∈ as, refused a = true → f a = .error (fault a)) :
    (as.find? refused = none ∧ ∃ bs, as.mapM f = .ok bs ∧ List.Forall₂ R as bs) ∨
      ∃ a, as.find? refused = some a ∧ as.mapM f = .error (fault a) := by
  induction as with
  | nil => exact .inl ⟨rfl, [], rfl, .nil⟩
  | cons a as ih =>
      cases ha : refused a with
      | true =>
          have hfault := error a List.mem_cons_self ha
          refine .inr ⟨a, List.find?_cons_of_pos ha, ?_⟩
          rw [List.mapM_cons, hfault]
          rfl
      | false =>
          obtain ⟨b, hb, hR⟩ := ok a List.mem_cons_self ha
          have hfind : (a :: as).find? refused = as.find? refused :=
            List.find?_cons_of_neg (by simp [ha])
          rw [hfind, List.mapM_cons, hb]
          rcases ih (fun c hc => ok c (List.mem_cons_of_mem a hc))
              fun c hc => error c (List.mem_cons_of_mem a hc) with
            ⟨hnone, bs, hbs, hall⟩ | ⟨c, hc, hfault⟩
          · refine .inl ⟨hnone, b :: bs, ?_, .cons hR hall⟩
            rw [hbs]
            rfl
          · refine .inr ⟨c, hc, ?_⟩
            rw [hfault]
            rfl

namespace Table

open Annotations (IsShaped AreFound nullHighlights highlightProblem)

/-- A record as it is made of a row that was found: the columns of the table are its fields, in the
order of the row, and what was found out about the row annotates it. -/
structure Finds (table : Table) (row : Fields) (record : Record) : Prop where
  named : record.table = table.name.toValue
  present : record.deleted = false
  ordered : record.fields.entries.Sublist row.entries
  fields : ∀ entry, entry ∈ record.fields.entries ↔
    entry ∈ row.entries ∧ ∀ name, entry.1 = .text name → Annotations.isComputed name = false
  annotations : ∃ found, record.annotations = some found ∧ AreFound row found

def hasNullHighlight (row : Fields) : Bool := !(nullHighlights row).isEmpty

def nullHighlightFault (row : Fields) : Fault :=
  .rejected ((nullHighlights row).map highlightProblem)

variable {σ : Type} {table : Table} {names : List String} {row : Fields}

theorem has_ownColumns (h : primaryKey.toValue ∈ row.keys) :
    (Annotations.ownColumns row).has primaryKey.toValue = true := by
  have hown : primaryKey.toValue ∈ (Annotations.ownColumns row).keys := by
    refine mem_ownColumns.2 ⟨h, fun name hname => ?_⟩
    cases hname
    decide
  exact List.any_eq_true.2 ⟨_, hown, by simp [Identifier.toValue]⟩

theorem wrapHit_of_shaped (h : IsShaped names row) (hrank : rankColumn ∈ names)
    (hnone : hasNullHighlight row = false) :
    ∃ record, table.wrapHit row = .ok record ∧ table.Finds row record := by
  obtain ⟨annotations, hsplit, hfound⟩ :=
    Annotations.split_of_shaped h hrank (by simpa [hasNullHighlight] using hnone)
  have hkeyed := has_ownColumns h.keyed
  have hrecord : Record.ofRow table.name.toValue (Annotations.ownColumns row) (some annotations) =
      .ok ⟨table.name.toValue, Annotations.ownColumns row, hkeyed, some annotations, false⟩ :=
    dif_pos hkeyed
  exact ⟨_, Outcome.bind_eq_ok.2 ⟨_, hsplit, hrecord⟩, rfl, rfl, List.filter_sublist,
    fun _ => mem_ownColumns_entries, annotations, rfl, hfound⟩

theorem wrapHit_of_null (h : IsShaped names row) (hrank : rankColumn ∈ names)
    (hsome : hasNullHighlight row = true) :
    table.wrapHit row = .error (nullHighlightFault row) :=
  Outcome.bind_eq_error.2
    (.inl (Annotations.split_of_null h hrank (by simpa [hasNullHighlight] using hsome)))

variable {db : Database σ} {columns : List Identifier} {query : String}
  {argument : SearchArgument} {options : SearchOptions} {limit : AtLeast 1} {made : Statement}

theorem search_eq (hcolumns : table.searchColumns = some columns)
    (hoptions : argument.load = .ok options) (hquery : isBlankText query = false)
    (hlimit : hitLimit db options = .ok limit)
    (hmade : SearchQuery.statement table.name.toValue (columns.map Identifier.toValue) query
      options (.int limit.val) = .ok made) :
    table.search db query argument = (do
      Action.log (table.entry Level.debug "Searching"
        [("query", .text query), ("limit", .int limit.val)])
      let rows ← db.query made
      Action.ofExcept (rows.mapM table.wrapHit)) := by
  have hbind : ∀ {α β : Type} (a : α) (next : α → Action σ β),
      (Action.ofExcept (.ok a) >>= next) = next a := fun _ _ => rfl
  have hstatement : SearchQuery.statement table.name.toValue (columns.map (·.toValue)) query
      options (.int limit.val) = .ok made := hmade
  have hload : argument.loadWith SearchOptions.validate = .ok options := hoptions
  unfold search searchWith
  simp only [hcolumns, hload, hquery, hlimit, hstatement, hbind]
  rfl

theorem sends_search (hcolumns : table.searchColumns = some columns)
    (hoptions : argument.load = .ok options) (hquery : isBlankText query = false)
    (hlimit : hitLimit db options = .ok limit)
    (hmade : SearchQuery.statement table.name.toValue (columns.map Identifier.toValue) query
      options (.int limit.val) = .ok made) {s : σ} {reply : Reply}
    (hreply : (db.store.send s made).1 = .ok reply) :
    db.Sends (table.search (db.recording Unit) query argument) (table.search db query argument) s
      [db.store.sending s made] (reply.rows.mapM table.wrapHit) (db.store.send s made).2 := by
  have hlimit' : hitLimit (db.recording Unit) options = .ok limit := hlimit
  rw [search_eq hcolumns hoptions hquery hlimit hmade,
    search_eq hcolumns hoptions hquery hlimit' hmade]
  exact (Database.Sends.log _ s).bind
    ((db.sends_query hreply).bind_silent (.ofExcept (reply.rows.mapM table.wrapHit) _))

theorem no_null_of_unasked (h : IsShaped (computedColumns columns options) row)
    (hoff : options.highlight = false) : hasNullHighlight row = false := by
  have hnone : nullHighlights row = [] := by
    refine List.eq_nil_iff_forall_not_mem.2 fun c hc => ?_
    have hentry := Annotations.mem_nullHighlights.1 hc
    have hname := Annotations.isComputed_of_highlighted (Annotations.highlighted_append c)
    have hmem := (h.computed _ hname).1 (List.mem_map_of_mem hentry)
    have hfound := List.mem_filterMap.2 ⟨_, hmem, Annotations.highlighted_append c⟩
    rw [SearchQuery.highlighted_computedColumns, hoff] at hfound
    cases hfound
  rw [hasNullHighlight, hnone]
  rfl

/-- A search that passes every check sends one statement. If it is answered with rows of the shape
that the statement selects, they become records one by one, each with what was found out about it.
Only a highlight that is null makes the search fail then, and only if highlights were asked for: it
reports those of the first row that has any. -/
theorem search_finds_unless_null (hcolumns : table.searchColumns = some columns)
    (hoptions : argument.load = .ok options) (hquery : isBlankText query = false)
    (hlimit : hitLimit db options = .ok limit)
    (hmade : SearchQuery.statement table.name.toValue (columns.map Identifier.toValue) query
      options (.int limit.val) = .ok made) :
    ∃ projection, readProjection made.sql = some projection ∧
      ∀ s reply, (db.store.send s made).1 = .ok reply →
        (∀ row ∈ reply.rows, IsShaped (projection.filterMap Projected.name?) row) →
        ∃ outcome, db.Sends (table.search (db.recording Unit) query argument)
            (table.search db query argument) s [db.store.sending s made] outcome
            (db.store.send s made).2 ∧
          ((reply.rows.find? hasNullHighlight = none ∧ ∃ records, outcome = .ok records ∧
              List.Forall₂ table.Finds reply.rows records) ∨
            ∃ row, options.highlight = true ∧ reply.rows.find? hasNullHighlight = some row ∧
              outcome = .error (nullHighlightFault row)) := by
  obtain ⟨-, snippet, conditions, hsql, hs, -⟩ := SearchQuery.statement_ok hmade
  have hread := SearchQuery.readProjection_text table.name columns query options snippet conditions
  rw [← hsql] at hread
  refine ⟨_, hread, fun s reply hreply hrows => ?_⟩
  rw [SearchQuery.projected_names _ columns hs] at hrows
  have hrank : rankColumn ∈ computedColumns columns options := List.mem_cons_self
  refine ⟨_, sends_search hcolumns hoptions hquery hlimit hmade hreply, ?_⟩
  rcases Outcome.mapM_find (fun row hm => wrapHit_of_shaped (hrows row hm) hrank)
    (fun row hm => wrapHit_of_null (hrows row hm) hrank) with
    ⟨hnone, records, hrecords, hall⟩ | ⟨row, hrow, hfault⟩
  · exact .inl ⟨hnone, records, hrecords, hall⟩
  · refine .inr ⟨row, ?_, hrow, hfault⟩
    by_contra hoff
    have hnull := List.find?_some hrow
    rw [no_null_of_unasked (hrows row (List.mem_of_find?_eq_some hrow)) (by simpa using hoff)]
      at hnull
    cases hnull

/-! ## A search for drafts -/

def bodyColumn : Identifier := ⟨"body", by decide⟩

def drafts : Table where
  name := notes.name
  schema := notes.schema ++ [(bodyColumn, .text "TEXT")]
  searchColumns := some (notes.schemaColumns ++ [bodyColumn])

def draftArgument : SearchArgument := .given (.map [(.text "highlight", .bool true)])

/-- A draft that was found by its title, and perhaps has no body. -/
def draftColumns (body : Option String) : List (String × Value) :=
  [("id", .int 1), ("title", .text "a draft"), ("body", SearchOptions.orNull .text body),
    ("_fts_rank", .real (.ofInt 1)), ("_fts_hl_title", .text "a <b>draft</b>"),
    ("_fts_hl_body", SearchOptions.orNull .text body)]

def draft (body : Option String) : Fields := Fields.ofColumns (named (draftColumns body))

theorem entries_draft (body : Option String) : (draft body).entries = named (draftColumns body) :=
  rfl

def draftNames : List String := ["_fts_rank", "_fts_hl_title", "_fts_hl_body"]

theorem markedColumns_draft (body : Option String) :
    Annotations.markedColumns (draftColumns body) =
      [("title", .text "a <b>draft</b>"), ("body", SearchOptions.orNull .text body)] := by
  have hown : ∀ name ∈ ["id", "title", "body", "_fts_rank"],
      Annotations.highlighted? name = none := by decide
  have htitle : Annotations.highlighted? "_fts_hl_title" = some "title" := by decide
  have hbody : Annotations.highlighted? "_fts_hl_body" = some "body" := by decide
  simp [Annotations.markedColumns, draftColumns, hown, htitle, hbody]

theorem isShaped_draft (body : Option String) : IsShaped draftNames (draft body) where
  keyed := List.mem_cons_self
  named key hk := by
    obtain ⟨entry, he, rfl⟩ := List.mem_map.1 hk
    rw [entries_draft, named] at he
    obtain ⟨column, -, rfl⟩ := List.mem_map.1 he
    exact ⟨column.1, rfl⟩
  computed name hname := by
    have hkeys : (draft body).keys = (["id", "title", "body"] ++ draftNames).map .text := rfl
    have hown : name ∉ ["id", "title", "body"] := by
      intro hm
      have hnone : ∀ own ∈ ["id", "title", "body"], Annotations.isComputed own = false := by
        decide
      rw [hnone name hm] at hname
      cases hname
    rw [hkeys, List.mem_map_of_injective fun _ _ h => Value.text.inj h, List.mem_append]
    exact or_iff_right hown
  rank v hv := by
    have hlookup := Annotations.lookup_of_mem (Annotations.nodup_names (entries_draft body))
      (Annotations.mem_named.1 hv)
    exact ⟨.ofInt 1, (Option.some.inj hlookup).symm⟩
  snippet v hv := by
    have hlookup := Annotations.lookup_of_mem (Annotations.nodup_names (entries_draft body))
      (Annotations.mem_named.1 hv)
    have hnone : (draftColumns body).lookup snippetColumn = none := rfl
    rw [hnone] at hlookup
    cases hlookup
  highlights c v hv := by
    rw [entries_draft, Annotations.mem_named, ← Annotations.mem_markedColumns,
      markedColumns_draft] at hv
    simp only [List.mem_cons, Prod.mk.injEq, List.not_mem_nil, or_false] at hv
    rcases hv with ⟨-, rfl⟩ | ⟨-, rfl⟩
    · exact ⟨some "a <b>draft</b>", rfl⟩
    · exact ⟨body, rfl⟩

theorem search_rejects_draft : ∃ options made projection,
    draftArgument.load = .ok options ∧
    SearchQuery.statement (.text "notes") [.text "title", .text "body"] "draft" options
      (.int 20) = .ok made ∧
    readProjection made.sql = some projection ∧
    IsShaped (projection.filterMap Projected.name?) (draft none) ∧
    ((drafts.search Playback.database "draft" draftArgument).runFrom
      ⟨Playback.answering (draft none), []⟩).1 =
        .error (.rejected [⟨[.name "highlights", .name "body"], .stringType⟩]) := by
  refine ⟨_, _, _, rfl, rfl, SearchQuery.readProjection_text _ _ _ _ _ _, ?_, ?_⟩
  · exact isShaped_draft none
  · rfl

theorem search_finds_draft : ∃ options made records s',
    draftArgument.load = .ok options ∧
    SearchQuery.statement (.text "notes") [.text "title", .text "body"] "draft" options
      (.int 20) = .ok made ∧
    Playback.database.Sends
      (drafts.search (Playback.database.recording Unit) "draft" draftArgument)
      (drafts.search Playback.database "draft" draftArgument)
      (Playback.answering (draft (some "kept")))
      [Playback.store.sending (Playback.answering (draft (some "kept"))) made] (.ok records) s' ∧
    List.Forall₂ drafts.Finds [draft (some "kept")] records := by
  have hcolumns : drafts.searchColumns = some (notes.schemaColumns ++ [bodyColumn]) := rfl
  obtain ⟨options, hoptions, hlimit, made, hmade, projection, hread, hnames⟩ :
      ∃ options, draftArgument.load = .ok options ∧
        hitLimit Playback.database options = .ok ⟨20, by decide⟩ ∧
        ∃ made, SearchQuery.statement (.text "notes") [.text "title", .text "body"] "draft" options
            (.int 20) = .ok made ∧
          ∃ projection, readProjection made.sql = some projection ∧
            projection.filterMap Projected.name? = draftNames :=
    ⟨_, rfl, rfl, _, rfl, _, SearchQuery.readProjection_text _ _ _ _ _ _, rfl⟩
  obtain ⟨projected, hprojected, hall⟩ :=
    search_finds_unless_null hcolumns hoptions (by decide) hlimit hmade
  obtain rfl := Option.some.inj (hprojected.symm.trans hread)
  obtain ⟨outcome, hsends, ⟨-, records, rfl, hfinds⟩ | ⟨row, -, hnull, -⟩⟩ :=
    hall (Playback.answering (draft (some "kept"))) { rows := [draft (some "kept")] } rfl (by
      intro row hm
      rw [List.mem_singleton.1 hm, hnames]
      exact isShaped_draft (some "kept"))
  · exact ⟨options, made, records, _, hoptions, hmade, hsends, hfinds⟩
  · cases hnull

end Table

end TableRecords
