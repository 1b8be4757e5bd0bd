import Mathlib
import TableRecords.Proofs.Search.Findings
import TableRecords.Proofs.Search.Match
import TableRecords.Proofs.Search.Options
import TableRecords.Proofs.Sql.Keys

/-! # What a search asks for

A search is decided before the store is asked for anything: its options first, then whether the
query has a word, then the column of the excerpt and the conditions. What passes is one statement,
and all the numbers in it are within their bounds.
-/

namespace TableRecords

open SearchIndex (columnNames)

variable {σ : Type}

/-- The number of tokens that the function of an excerpt is given last. -/
def Projected.tokenCount? : Projected → Option Int
  | all _ => none
  | computed _ operands _ => operands[5]?.bind readNumber

namespace SearchQuery

/-- Whether the excerpt, if there is to be one, is of a column of the index or of any. -/
def HasPlace (columns : List Identifier) (options : SearchOptions) : Prop :=
  options.snippet = true → ∀ c ∈ options.snippetColumn, c ∈ columnNames columns

/-- What a search with words is refused for: a column of the excerpt that the index lacks, or else
the first key of its conditions that is none. -/
inductive Refusal (columns : List Identifier) (options : SearchOptions) : Fault → Prop
  | place {c} (hs : options.snippet = true) (hc : options.snippetColumn = some c)
      (h : c ∉ columnNames columns) :
      Refusal columns options (.invalidIdentifier (.text c) "search column")
  | condition {fault} (hp : HasPlace columns options)
      (h : Condition.FirstOffence options.conditionPairs fault) : Refusal columns options fault

/-- A call that makes an excerpt has its two numbers within their bounds. -/
structure IsExcerpt (columns : List Identifier) (call : Projected) : Prop where
  column : ∃ number, call.number? = some number ∧ -1 ≤ number ∧ number < columns.length
  tokens : ∃ count, call.tokenCount? = some count ∧ 1 ≤ count ∧ count ≤ 64

/-- What a search asks for, with a limit of its own or else that of the settings. The excerpt and
the text behind `MATCH` are read from the text of the statement. -/
structure IsBounded (settings : Settings) (columns : List Identifier) (options : SearchOptions)
    (statement : Statement) : Prop where
  parameters : ∃ limit offset, statement.params = [.int limit, .int offset] ∧ 1 ≤ limit ∧
    0 ≤ offset ∧ (∀ given, options.limit = some given → limit = given.val) ∧
    (options.limit = none → limit = settings.searchLimit.val) ∧ offset = options.offset.val
  excerpt : ∃ projection, readProjection statement.sql = some projection ∧
    (options.snippet = false → ∀ item ∈ projection, item.isCallOf "snippet" = false) ∧
    (options.snippet = true → ∃ call, projection.filter (·.isCallOf "snippet") = [call] ∧
      IsExcerpt columns call)
  sought : options.literal = true → ∃ sought rest,
    readMatch? statement.sql = some (sought, rest) ∧ sought ≠ ""

variable {table : Identifier} {columns : List Identifier} {query : String}
  {options : SearchOptions} {limit : Value} {statement : Statement} {fault : Fault}

theorem snippetPosition_eq_error {wanted : Option String} :
    snippetPosition columns wanted = .error fault ↔ ∃ c, wanted = some c ∧
      c ∉ columnNames columns ∧ fault = .invalidIdentifier (.text c) "search column" := by
  cases wanted with
  | none => simp [snippetPosition]
  | some c =>
      have hfound : c ∈ columnNames columns ↔
          (columns.findIdx? fun column => column.text == c) ≠ none := by
        rw [Ne, List.findIdx?_eq_none_iff]
        simp [columnNames]
      unfold snippetPosition
      simp only
      cases hposition : columns.findIdx? fun column => column.text == c with
      | none =>
          rw [hposition] at hfound
          simp [hfound, eq_comm]
      | some position =>
          rw [hposition] at hfound
          simp [hfound]

theorem askedPosition_eq_error : askedPosition columns options = .error fault ↔
    options.snippet = true ∧ ∃ c, options.snippetColumn = some c ∧ c ∉ columnNames columns ∧
      fault = .invalidIdentifier (.text c) "search column" := by
  unfold askedPosition
  cases options.snippet with
  | true => simp [Outcome.map_eq_error, snippetPosition_eq_error]
  | false => simp

theorem hasPlace_of_ok {snippet : Option Int} (h : askedPosition columns options = .ok snippet) :
    HasPlace columns options := by
  intro hs c hc
  by_contra hn
  rw [askedPosition_eq_error.2 ⟨hs, c, hc, hn, rfl⟩] at h
  cases h

theorem exists_askedPosition (h : HasPlace columns options) :
    ∃ snippet, askedPosition columns options = .ok snippet := by
  cases hsnippet : askedPosition columns options with
  | ok snippet => exact ⟨snippet, rfl⟩
  | error fault =>
      obtain ⟨hs, c, hc, hn, -⟩ := askedPosition_eq_error.1 hsnippet
      exact absurd (h hs c hc) hn

/-- Over the columns of an index, a statement is refused for nothing else. -/
theorem statement_eq_error (ne : columns ≠ []) :
    SearchQuery.statement table.toValue (columns.map Identifier.toValue) query options limit =
      .error fault ↔ Refusal columns options fault := by
  rw [statement_eq ne, Outcome.bind_eq_error]
  constructor
  · rintro (h | ⟨snippet, hsnippet, h⟩)
    · obtain ⟨hs, c, hc, hn, rfl⟩ := askedPosition_eq_error.1 h
      exact .place hs hc hn
    · rcases Outcome.bind_eq_error.1 h with h | ⟨conditions, -, h⟩
      · exact .condition (hasPlace_of_ok hsnippet) (Condition.ofPairs_eq_error.1 h)
      · cases h
  · rintro (⟨hs, hc, hn⟩ | ⟨hp, h⟩)
    · exact .inl (askedPosition_eq_error.2 ⟨hs, _, hc, hn, rfl⟩)
    · obtain ⟨snippet, hsnippet⟩ := exists_askedPosition hp
      exact .inr ⟨snippet, hsnippet,
        Outcome.bind_eq_error.2 (.inl (Condition.ofPairs_eq_error.2 h))⟩

theorem columnNumber_bounds {names : List String} {wanted : Option String}
    (h : ∀ c ∈ wanted, c ∈ names) :
    -1 ≤ columnNumber names wanted ∧ columnNumber names wanted < names.length := by
  cases wanted with
  | none => exact ⟨le_refl _, by simp only [columnNumber]; omega⟩
  | some c =>
      have hlt : names.idxOf c < names.length := List.idxOf_lt_length_iff.2 (h c rfl)
      simp only [columnNumber]
      omega

theorem isExcerpt_snippetProjected (index : Identifier) (options : SearchOptions) {position : Int}
    (h : snippetPosition columns options.snippetColumn = .ok position) :
    IsExcerpt columns (snippetProjected index options position) where
  column := by
    obtain ⟨rfl, hnamed⟩ := snippetPosition_ok h
    have hlength : (columnNames columns).length = columns.length := List.length_map ..
    have hbounds := columnNumber_bounds hnamed
    rw [hlength] at hbounds
    exact ⟨_, number_snippetProjected index options _, hbounds⟩
  tokens :=
    ⟨_, readNumber_tokens options.snippetTokens.val, options.snippetTokens.property⟩

theorem filter_projected (index : Identifier) (columns : List Identifier) (options : SearchOptions)
    (snippet : Option Int) :
    (projected index columns options snippet).filter (·.isCallOf "snippet") =
      (snippet.map (snippetProjected index options)).toList := by
  have hhighlights : (if options.highlight then
      columns.mapIdx fun position column => highlightProjected index options position column
      else []).filter (·.isCallOf "snippet") = [] := by
    refine List.filter_eq_nil_iff.2 fun item hm => ?_
    split at hm
    · obtain ⟨position, hp, rfl⟩ := List.mem_mapIdx.1 hm
      simp [highlightProjected, Projected.isCallOf]
    · cases hm
  rw [projected, List.filter_append, List.filter_append, hhighlights, List.append_nil]
  cases snippet <;> rfl

theorem literalQuery_ne {query : String} (h : ∃ c ∈ query.toList, isWhite c = false) :
    literalQuery query ≠ "" := by
  intro hempty
  have hread := readStrings_literalQuery query
  obtain ⟨c, hc, hwhite⟩ := h
  rw [hempty] at hread
  have hwords : words query.toList = [] := (Option.some.inj hread).symm
  rw [(splitsInto_iff.2 rfl).eq_nil_iff.1 hwords c hc] at hwhite
  cases hwhite

theorem isBounded_statement {settings : Settings} {given : AtLeast 1} (ne : columns ≠ [])
    (hquery : ∃ c ∈ query.toList, isWhite c = false)
    (hgiven : given = options.limit.getD settings.searchLimit)
    (h : SearchQuery.statement table.toValue (columns.map Identifier.toValue) query options
      (.int given.val) = .ok statement) : IsBounded settings columns options statement := by
  rw [statement_eq ne] at h
  obtain ⟨snippet, hsnippet, h⟩ := Outcome.bind_eq_ok.1 h
  obtain ⟨conditions, -, h⟩ := Outcome.bind_eq_ok.1 h
  obtain rfl := Except.ok.inj h
  obtain ⟨hasked, hposition⟩ := askedPosition_ok hsnippet
  refine ⟨⟨given.val, options.offset.val, rfl, given.property, options.offset.property, ?_, ?_,
    rfl⟩, ⟨_, readProjection_text table columns query options snippet conditions, ?_, ?_⟩, ?_⟩
  · intro own hown
    rw [hgiven, hown]
    rfl
  · intro hnone
    rw [hgiven, hnone]
    rfl
  · intro hoff item hm
    have hnone : snippet = none := by
      rw [← Option.not_isSome_iff_eq_none, hasked, hoff]
      decide
    have hfilter := filter_projected (SearchIndex.name table) columns options snippet
    rw [hnone] at hfilter hm
    exact Bool.eq_false_iff.2 (List.filter_eq_nil_iff.1 hfilter item hm)
  · intro hon
    rw [hon] at hasked
    obtain ⟨position, rfl⟩ := Option.isSome_iff_exists.1 hasked
    exact ⟨_, filter_projected (SearchIndex.name table) columns options (some position),
      isExcerpt_snippetProjected _ options (hposition position rfl)⟩
  · intro hliteral
    refine ⟨_, _, readMatch_text table columns query options snippet conditions, ?_⟩
    rw [matchText, if_pos hliteral]
    exact literalQuery_ne hquery

end SearchQuery

/-! ## Searches -/

namespace Table

/-- The ways a search goes: what is sent, and how it ends. Which of them it is does not depend on
the store. -/
inductive Searches (readings : Readings) (settings : Settings) (columns : List Identifier)
    (query : String) (argument : SearchArgument) :
    List Sending → Except Fault (List Record) → Prop
  | rejected {problems} (ho : ∀ options, ¬argument.Means readings options) :
      Searches readings settings columns query argument [] (.error (.rejected problems))
  | blank {options} (ho : argument.Means readings options)
      (hq : ∀ c ∈ query.toList, isWhite c = true) :
      Searches readings settings columns query argument [] (.ok [])
  | refused {options fault} (ho : argument.Means readings options)
      (hq : ∃ c ∈ query.toList, isWhite c = false)
      (hr : SearchQuery.Refusal columns options fault) :
      Searches readings settings columns query argument [] (.error fault)
  | asked {options sending outcome} (ho : argument.Means readings options)
      (hq : ∃ c ∈ query.toList, isWhite c = false)
      (hr : ∀ fault, ¬SearchQuery.Refusal columns options fault)
      (hb : SearchQuery.IsBounded settings columns options sending.statement) :
      Searches readings settings columns query argument [sending] outcome

variable {db : Database σ} {table : Table} {columns : List Identifier} {settings : Settings}

theorem isBlankText_iff {query : String} :
    isBlankText query = true ↔ ∀ c ∈ query.toList, isWhite c = true := by
  rw [isBlankText, isBlank_eq_isWhite]
  exact List.all_eq_true

theorem isBlankText_eq_false {query : String} :
    isBlankText query = false ↔ ∃ c ∈ query.toList, isWhite c = false := by
  rw [isBlankText, isBlank_eq_isWhite]
  simp

theorem hitLimit_eq (hsettings : db.settings = .ok settings) (options : SearchOptions) :
    hitLimit db options = .ok (options.limit.getD settings.searchLimit) := by
  unfold hitLimit
  cases options.limit with
  | some limit => rfl
  | none =>
      rw [hsettings]
      rfl

theorem always_search {readings : Readings} {validate : Value → Except Fault SearchOptions}
    (hvalidate : SearchOptions.Validates readings validate)
    (hcolumns : table.searchColumns = some columns) (ne : columns ≠ [])
    (hsettings : db.settings = .ok settings) (query : String) (argument : SearchArgument) :
    db.Always (table.searchWith validate (db.recording Unit) query argument)
      (table.searchWith validate db query argument)
      (Searches readings settings columns query argument) := by
  unfold searchWith
  rw [hcolumns]
  refine .ofExcept_bind (fun fault hf => ?_) fun options hload => ?_
  · obtain ⟨⟨problems, rfl⟩, hnone⟩ := hvalidate.loadWith_eq_error hf
    exact .rejected hnone
  have ho := hvalidate.loadWith_eq_ok.1 hload
  split
  · rename_i hblank
    exact .ofExcept (.blank ho (isBlankText_iff.1 hblank))
  · rename_i hblank
    have hquery := isBlankText_eq_false.1 (Bool.eq_false_iff.2 hblank)
    refine .ok_bind (hitLimit_eq hsettings options) (.ofExcept_bind (fun fault hf => ?_)
      fun made hmade => .log_bind _ ?_)
    · exact .refused ho hquery ((SearchQuery.statement_eq_error ne).1 hf)
    · have hbounded : SearchQuery.IsBounded settings columns options made :=
        SearchQuery.isBounded_statement ne hquery rfl hmade
      have haccepted : ∀ fault, ¬SearchQuery.Refusal columns options fault := by
        intro fault hr
        have hfault := hmade.symm.trans ((SearchQuery.statement_eq_error ne).2 hr)
        cases hfault
      refine (db.asks_query made).bind (fun sending fault hs _ => ?_) fun sending reply hs _ =>
        .ofExcept ?_
      · exact .asked ho hquery haccepted (hs ▸ hbounded)
      · exact .asked ho hquery haccepted (hs ▸ hbounded)

end Table

/-- From any state of the store a search over the columns of an index comes to an end. It sends
nothing if its options are rejected, if its query has no word, or if a column of the excerpt or a
condition is refused; otherwise it sends one statement, which is within its bounds. -/
theorem search_decided_and_bounded {readings : Readings}
    {validate : Value → Except Fault SearchOptions}
    (hvalidate : SearchOptions.Validates readings validate) {db : Database σ} {table : Table}
    {columns : List Identifier} {settings : Settings}
    (hcolumns : table.searchColumns = some columns) (ne : columns ≠ [])
    (hsettings : db.settings = .ok settings) (query : String) (argument : SearchArgument) (s : σ) :
    ∃ sent outcome s', db.Sends (table.searchWith validate (db.recording Unit) query argument)
        (table.searchWith validate db query argument) s sent outcome s' ∧
      Table.Searches readings settings columns query argument sent outcome :=
  Table.always_search hvalidate hcolumns ne hsettings query argument s

/-- An excerpt of the title is asked for, of the words as they stand, and five hits at most. -/
def excerptArgument : SearchArgument := .given (.map
  [(.text "limit", .int 5), (.text "snippet", .bool true),
    (.text "snippet_column", .text "title"), (.text "literal", .bool true)])

theorem excerpt_asked : SearchOptions.Validates SearchOptions.readings SearchOptions.validate ∧
    ∃ options sending outcome s', excerptArgument.Means SearchOptions.readings options ∧
      options.limit = some ⟨5, by decide⟩ ∧
      Playback.database.Sends
        (Table.drafts.searchWith SearchOptions.validate (Playback.database.recording Unit) "a draft"
          excerptArgument)
        (Table.drafts.searchWith SearchOptions.validate Playback.database "a draft" excerptArgument)
        {} [sending] outcome s' ∧
      sending.statement.params = [.int 5, .int 0] ∧
      SearchQuery.IsBounded {} (notes.schemaColumns ++ [Table.bodyColumn]) options
        sending.statement := by
  have hvalidate := SearchOptions.validates
  have hcolumns : Table.drafts.searchColumns = some (notes.schemaColumns ++ [Table.bodyColumn]) :=
    rfl
  have hsettings : Playback.database.settings = .ok {} := rfl
  obtain ⟨options, hload, hlimit, hoffset, hcolumn, hconditions⟩ : ∃ options,
      excerptArgument.loadWith SearchOptions.validate = .ok options ∧
      options.limit = some ⟨5, by decide⟩ ∧ options.offset = ⟨0, by decide⟩ ∧
      options.snippetColumn = some "title" ∧ options.conditionPairs = [] :=
    ⟨_, rfl, rfl, rfl, rfl, rfl⟩
  have hmeans := hvalidate.loadWith_eq_ok.1 hload
  have honly : ∀ other, excerptArgument.Means SearchOptions.readings other → other = options :=
    fun other ho => Except.ok.inj ((hvalidate.loadWith_eq_ok.2 ho).symm.trans hload)
  have haccepted : ∀ fault, ¬SearchQuery.Refusal (notes.schemaColumns ++ [Table.bodyColumn])
      options fault := by
    rintro fault (⟨-, hc, hn⟩ | ⟨-, before, entry, after, h, -⟩)
    · cases hcolumn.symm.trans hc
      exact hn (by decide)
    · rw [hconditions] at h
      exact List.append_ne_nil_of_right_ne_nil before (List.cons_ne_nil entry after) h.symm
  obtain ⟨sent, outcome, s', hs, hways⟩ := search_decided_and_bounded hvalidate hcolumns (by decide)
    hsettings "a draft" excerptArgument {}
  refine ⟨hvalidate, ?_⟩
  cases hways with
  | rejected ho => exact absurd hmeans (ho options)
  | blank _ hq => exact absurd (hq 'a' (by decide)) (by decide)
  | refused ho _ hr =>
      cases honly _ ho
      exact absurd hr (haccepted _)
  | asked ho _ _ hb =>
      cases honly _ ho
      refine ⟨options, _, outcome, s', hmeans, hlimit, hs, ?_, hb⟩
      obtain ⟨limit, offset, hparams, -, -, hgiven, -, rfl⟩ := hb.parameters
      rw [hparams, hgiven _ hlimit, hoffset]

end TableRecords
