import Mathlib
import TableRecords.Proofs.Search.Projection

/-! # Hits of searches

A hit is taken apart by the names of its columns alone. What belongs to the table stays as it was,
and what was computed goes under the column it was computed of, wherever it stands in the row. A
search numbers the columns as the index declares them, so that is also the column it is of.
-/

namespace TableRecords

namespace Annotations

variable {row : Fields} {columns own computed : List (String × Value)}

theorem highlighted_append (c : String) : highlighted? (highlightMark ++ c) = some c := by
  have hlength : highlightMark.length = highlightMark.toList.length := rfl
  simp [highlighted?, hlength]

theorem highlighted_eq_some {name c : String} (h : highlighted? name = some c) :
    name = highlightMark ++ c := by
  unfold highlighted? at h
  split at h
  · rename_i hprefix
    cases h
    obtain ⟨rest, hrest⟩ := List.isPrefixOf_iff_prefix.1 hprefix
    have hlength : highlightMark.length = highlightMark.toList.length := rfl
    apply String.toList_injective
    rw [String.toList_append, String.toList_ofList, hlength, ← hrest, List.drop_left]
  · cases h

/-- What is computed of a column has a name that no column of a table has. -/
theorem isComputed_of_highlighted {name c : String} (h : highlighted? name = some c) :
    isComputed name = true := by
  rw [highlighted_eq_some h, highlightMark, String.append_assoc]
  simp [isComputed]

theorem namedColumns_of_named (h : row.entries = named columns) :
    namedColumns row = .ok columns := by
  rw [namedColumns, h, named, Outcome.mapM_eq_ok, List.forall₂_map_left_iff, List.forall₂_same]
  exact fun entry _ => rfl

theorem exists_named {entries : Pairs} (h : ∀ entry ∈ entries, ∃ name, entry.1 = .text name) :
    ∃ columns, entries = named columns := by
  induction entries with
  | nil => exact ⟨[], rfl⟩
  | cons entry entries ih =>
      obtain ⟨name, hname⟩ := h entry List.mem_cons_self
      obtain ⟨columns, hcolumns⟩ := ih fun other ho => h other (List.mem_cons_of_mem entry ho)
      refine ⟨(name, entry.2) :: columns, ?_⟩
      rw [named, List.map_cons, ← hname, hcolumns]
      rfl

theorem named_injective : Function.Injective
    fun entry : String × Value => ((.text entry.1, entry.2) : Value × Value) := by
  rintro ⟨name, v⟩ ⟨other, w⟩ h
  obtain ⟨hname, hv⟩ := Prod.mk.inj h
  cases hname
  cases hv
  rfl

theorem named_perm {columns others : List (String × Value)} :
    (named columns).Perm (named others) ↔ columns.Perm others :=
  List.map_perm_map_iff named_injective

theorem nodup_names (h : row.entries = named columns) : (columns.map Prod.fst).Nodup := by
  have hdistinct := row.distinct
  rw [h, Entries.Distinct, named, List.pairwise_map] at hdistinct
  rw [List.Nodup, List.pairwise_map]
  refine hdistinct.imp fun {a b} hab heq => ?_
  rw [Value.same_text, heq] at hab
  simp at hab

theorem lookup_of_mem {name : String} {v : Value} (nodup : (columns.map Prod.fst).Nodup)
    (h : (name, v) ∈ columns) : columns.lookup name = some v := by
  induction columns with
  | nil => cases h
  | cons first rest ih =>
      rw [List.map_cons, List.nodup_cons] at nodup
      rcases List.mem_cons.1 h with rfl | h
      · simp
      · have hne : (name == first.1) = false := by
          rw [beq_eq_false_iff_ne]
          rintro rfl
          exact nodup.1 (List.mem_map.2 ⟨_, h, rfl⟩)
        rw [List.lookup_cons, hne]
        exact ih nodup.2 h

theorem lookup_of_notMem {name : String} (h : name ∉ columns.map Prod.fst) :
    columns.lookup name = none := by
  rw [List.lookup_eq_none_iff]
  intro entry he
  rw [bne_iff_ne]
  rintro rfl
  exact h (List.mem_map_of_mem he)

theorem mem_markedColumns {c : String} {v : Value} :
    (c, v) ∈ markedColumns columns ↔ (highlightMark ++ c, v) ∈ columns := by
  rw [markedColumns, List.mem_filterMap]
  constructor
  · rintro ⟨entry, he, hentry⟩
    obtain ⟨name, hname, heq⟩ := Option.map_eq_some_iff.1 hentry
    cases heq
    rw [← highlighted_eq_some hname]
    exact he
  · exact fun h => ⟨_, h, by rw [highlighted_append]; rfl⟩

theorem markedColumns_names (columns : List (String × Value)) :
    (markedColumns columns).map Prod.fst = (columns.map Prod.fst).filterMap highlighted? := by
  rw [markedColumns, List.map_filterMap, List.filterMap_map]
  refine List.filterMap_congr fun entry _ => ?_
  rw [Option.map_map]
  exact Option.map_id'

theorem markedColumns_own (h : ∀ entry ∈ own, isComputed entry.1 = false) :
    markedColumns own = [] := by
  refine List.filterMap_eq_nil_iff.2 fun entry he => ?_
  rw [Option.map_eq_none_iff]
  cases hmark : highlighted? entry.1 with
  | none => rfl
  | some c =>
      have hown := h entry he
      rw [isComputed_of_highlighted hmark] at hown
      cases hown

theorem each_marked (texts : List (String × String)) :
    (Checked.each marked (texts.map fun entry => (entry.1, .text entry.2))).outcome =
      .ok texts := by
  induction texts with
  | nil => rfl
  | cons first rest ih =>
      change (Checked.both (Checked.passed (first :: ·)) (Checked.each marked _)).outcome = _
      rw [Checked.both, ih]
      rfl

/-- What an excerpt is, given what stands in its column if there is one. -/
def Excerpt (columns : List (String × Value)) (snippet : Option String) : Prop :=
  (columns.lookup snippetColumn).getD .null = SearchOptions.orNull .text snippet

theorem coerce_excerpt {snippet : Option String} (h : Excerpt columns snippet) :
    Value.coerceOptional Value.coerceText ((columns.lookup snippetColumn).getD .null) =
      .ok snippet := by
  rw [h]
  cases snippet with
  | none => rfl
  | some s => rfl

theorem split_of_named {rank : Binary64} {snippet : Option String}
    {texts : List (String × String)} (hrow : row.entries = named columns)
    (hrank : (rankColumn, .real rank) ∈ columns) (hsnippet : Excerpt columns snippet)
    (htexts : markedColumns columns = texts.map fun entry => (entry.1, .text entry.2)) :
    split (some row) = .ok (ownColumns row, ⟨rank, snippet, texts⟩) := by
  have hlookup := lookup_of_mem (nodup_names hrow) hrank
  have hannotations : (ofColumns columns (.real rank)).outcome = .ok ⟨rank, snippet, texts⟩ := by
    have heach := each_marked texts
    rw [ofColumns, coerce_excerpt hsnippet, htexts]
    change (Checked.both (Checked.passed _) (Checked.each marked _)).outcome = _
    rw [Checked.both, heach]
    rfl
  refine Outcome.bind_eq_ok.2 ⟨columns, namedColumns_of_named hrow, ?_⟩
  simp only [hlookup]
  exact Outcome.bind_eq_ok.2 ⟨⟨rank, snippet, texts⟩, by rw [hannotations]; rfl, rfl⟩

/-- A row with columns of a table and what a search computed under given names, in any order. -/
structure IsHit (names : List String) (own computed : List (String × Value)) (row : Fields) :
    Prop where
  entries : row.entries.Perm (named (own ++ computed))
  own : ∀ entry ∈ own, isComputed entry.1 = false
  names : computed.map Prod.fst = names
  rank : ∀ v, (rankColumn, v) ∈ computed → ∃ x, v = .real x
  snippet : ∀ v, (snippetColumn, v) ∈ computed → ∃ snippet, v = SearchOptions.orNull .text snippet
  highlights : ∀ c v, (highlightMark ++ c, v) ∈ computed → ∃ s, v = .text s

/-- The parts that a row comes apart into: nothing is lost and nothing is added, and what was
computed of a column stands under that column. -/
structure Parts (columns : List String) (own computed : List (String × Value)) (row fields : Fields)
    (annotations : Annotations) : Prop where
  ordered : fields.entries.Sublist row.entries
  own : fields.entries.Perm (named own)
  rank : (rankColumn, .real annotations.rank) ∈ computed
  snippet : Excerpt computed annotations.snippet
  columns : (annotations.highlights.map Prod.fst).Perm columns
  highlights : ∀ c s, (c, s) ∈ annotations.highlights ↔ (highlightMark ++ c, .text s) ∈ computed

theorem ownColumns_perm (h : row.entries.Perm (named (own ++ computed)))
    (hown : ∀ entry ∈ own, isComputed entry.1 = false)
    (hcomputed : ∀ entry ∈ computed, isComputed entry.1 = true) :
    (ownColumns row).entries.Perm (named own) := by
  refine (h.filter _).trans (.of_eq ?_)
  rw [named, List.map_append, List.filter_append, List.filter_eq_self.2, List.filter_eq_nil_iff.2,
    List.append_nil]
  · rfl
  · intro entry he
    obtain ⟨column, hc, rfl⟩ := List.mem_map.1 he
    simp [hcomputed column hc]
  · intro entry he
    obtain ⟨column, hc, rfl⟩ := List.mem_map.1 he
    simp [hown column hc]

theorem exists_texts (h : ∀ c v, (c, v) ∈ markedColumns columns → ∃ s, v = .text s) :
    ∃ texts : List (String × String),
      markedColumns columns = texts.map fun entry => (entry.1, .text entry.2) := by
  generalize markedColumns columns = found at h
  induction found with
  | nil => exact ⟨[], rfl⟩
  | cons first rest ih =>
      obtain ⟨s, hs⟩ := h first.1 first.2 List.mem_cons_self
      obtain ⟨texts, htexts⟩ := ih fun c v hm => h c v (List.mem_cons_of_mem first hm)
      exact ⟨(first.1, s) :: texts, by rw [htexts, List.map_cons, ← hs]⟩

theorem mem_texts {texts : List (String × String)}
    (h : markedColumns columns = texts.map fun entry => (entry.1, .text entry.2)) {c s : String} :
    (c, s) ∈ texts ↔ (highlightMark ++ c, .text s) ∈ columns := by
  rw [← mem_markedColumns, h, List.mem_map]
  constructor
  · exact fun hm => ⟨_, hm, rfl⟩
  · rintro ⟨⟨d, t⟩, hm, heq⟩
    cases heq
    exact hm

/-- A table's own columns add no highlights. -/
theorem markedColumns_perm (h : columns.Perm (own ++ computed))
    (hown : ∀ entry ∈ own, isComputed entry.1 = false) :
    (markedColumns columns).Perm (markedColumns computed) := by
  have hsplit : markedColumns (own ++ computed) = markedColumns own ++ markedColumns computed :=
    List.filterMap_append
  rw [← List.nil_append (markedColumns computed), ← markedColumns_own hown, ← hsplit]
  exact h.filterMap _

theorem lookup_computed {name : String} (nodup : (columns.map Prod.fst).Nodup)
    (hperm : columns.Perm (own ++ computed)) (hown : ∀ entry ∈ own, isComputed entry.1 = false)
    (hname : isComputed name = true) : columns.lookup name = computed.lookup name := by
  have hnames := hperm.map Prod.fst
  rw [List.map_append] at hnames
  by_cases hm : name ∈ computed.map Prod.fst
  · obtain ⟨⟨_, v⟩, hv, rfl⟩ := List.mem_map.1 hm
    have hcomputed : (computed.map Prod.fst).Nodup :=
      (List.nodup_append.1 (hnames.nodup nodup)).2.1
    rw [lookup_of_mem hcomputed hv,
      lookup_of_mem nodup (hperm.symm.subset (List.mem_append_right own hv))]
  · have hnone : name ∉ columns.map Prod.fst := by
      intro hc
      rcases List.mem_append.1 (hnames.subset hc) with ho | hc
      · obtain ⟨entry, he, rfl⟩ := List.mem_map.1 ho
        rw [hown entry he] at hname
        cases hname
      · exact hm hc
    rw [lookup_of_notMem hm, lookup_of_notMem hnone]

theorem IsHit.exists_excerpt {names : List String} (h : IsHit names own computed row)
    (nodup : (computed.map Prod.fst).Nodup) : ∃ snippet, Excerpt computed snippet := by
  by_cases hm : snippetColumn ∈ computed.map Prod.fst
  · obtain ⟨⟨_, v⟩, hv, rfl⟩ := List.mem_map.1 hm
    obtain ⟨snippet, rfl⟩ := h.snippet v hv
    exact ⟨snippet, by rw [Excerpt, lookup_of_mem nodup hv]; rfl⟩
  · exact ⟨none, by rw [Excerpt, lookup_of_notMem hm]; rfl⟩

theorem IsHit.exists_columns {names : List String} (h : IsHit names own computed row) :
    ∃ columns, row.entries = named columns ∧ columns.Perm (own ++ computed) := by
  have hkeys : ∀ entry ∈ row.entries, ∃ name, entry.1 = .text name := by
    intro entry he
    obtain ⟨column, _, rfl⟩ := List.mem_map.1 (h.entries.subset he)
    exact ⟨column.1, rfl⟩
  obtain ⟨columns, hcolumns⟩ := exists_named hkeys
  have hentries := h.entries
  rw [hcolumns] at hentries
  exact ⟨columns, hcolumns, named_perm.1 hentries⟩

/-- Every row of a hit comes apart. -/
theorem split_of_isHit {names : List String} (h : IsHit names own computed row)
    (hrank : rankColumn ∈ names) (hcomputed : ∀ name ∈ names, isComputed name = true) :
    ∃ fields annotations, split (some row) = .ok (fields, annotations) ∧
      Parts (names.filterMap highlighted?) own computed row fields annotations := by
  obtain ⟨columns, hcolumns, hperm⟩ := h.exists_columns
  have hnodup := nodup_names hcolumns
  have hnames : (computed.map Prod.fst).Nodup := by
    have hboth := (hperm.map Prod.fst).nodup hnodup
    rw [List.map_append] at hboth
    exact (List.nodup_append.1 hboth).2.1
  have hall : ∀ entry ∈ computed, isComputed entry.1 = true := by
    intro entry he
    exact hcomputed _ (h.names ▸ List.mem_map_of_mem he)
  obtain ⟨⟨_, v⟩, hv, hrankname⟩ := List.mem_map.1 (h.names ▸ hrank)
  cases hrankname
  obtain ⟨rank, rfl⟩ := h.rank v hv
  obtain ⟨snippet, hsnippet⟩ := h.exists_excerpt hnames
  have hexcerpt : Excerpt columns snippet := by
    rw [Excerpt, lookup_computed hnodup hperm h.own (by decide)]
    exact hsnippet
  have hmarked := markedColumns_perm hperm h.own
  obtain ⟨texts, htexts⟩ := exists_texts fun c v hm =>
    h.highlights c v (mem_markedColumns.1 (hmarked.subset hm))
  refine ⟨_, _, split_of_named hcolumns (hperm.symm.subset (List.mem_append_right own hv)) hexcerpt
    htexts, ⟨List.filter_sublist, ownColumns_perm h.entries h.own hall, hv, hsnippet, ?_, ?_⟩⟩
  · have htextnames : texts.map Prod.fst = (markedColumns columns).map Prod.fst := by
      rw [htexts, List.map_map]
      rfl
    rw [htextnames, ← h.names, ← markedColumns_names]
    exact hmarked.map Prod.fst
  · intro c s
    rw [mem_texts htexts, ← mem_markedColumns, hmarked.mem_iff, mem_markedColumns]

end Annotations

/-! ## Numbers of columns -/

/-- The number of a column, `-1` for any. -/
def columnNumber (columns : List String) : Option String → Int
  | none => -1
  | some c => columns.idxOf c

/-- What is selected numbers the columns of an index by their positions. A highlight is of the
column that it is named after, each column has one if there are to be any, and the excerpt is of the
column asked for, or of any. -/
structure Addresses (columns : List String) (options : SearchOptions)
    (projection : List Projected) : Prop where
  highlights : ∀ item ∈ projection, item.isCallOf "highlight" = true → ∃ c ∈ columns,
    item.name? = some (highlightMark ++ c) ∧ item.number? = some (columnNumber columns (some c))
  named : ∀ item ∈ projection, ∀ c, item.name? = some (highlightMark ++ c) →
    item.isCallOf "highlight" = true
  once : ∀ c ∈ columns, (projection.filterMap Projected.name?).count (highlightMark ++ c) =
    if options.highlight then 1 else 0
  excerpt : ∀ item ∈ projection, item.isCallOf "snippet" = true →
    item.name? = some snippetColumn ∧
      item.number? = some (columnNumber columns options.snippetColumn) ∧
      ∀ c ∈ options.snippetColumn, c ∈ columns

namespace SearchQuery

open SearchIndex (columnNames)

variable {table : Identifier} {columns : List Identifier} {query : String}
  {options : SearchOptions} {limit : Value} {statement : Statement}

def askedPosition (columns : List Identifier) (options : SearchOptions) :
    Except Fault (Option Int) :=
  if options.snippet then some <$> snippetPosition columns options.snippetColumn else .ok none

/-- Behind the names, which were checked before, a search has its excerpt and its conditions left to
check. -/
theorem statement_eq (ne : columns ≠ []) :
    SearchQuery.statement table.toValue (columns.map Identifier.toValue) query options limit = (do
      let snippet ← askedPosition columns options
      let conditions ← Condition.ofPairs options.conditionPairs
      pure ⟨text table columns query options snippet conditions,
        [limit, .int options.offset.val]⟩) := by
  have htable : Statement.tableName table.toValue = .ok table := Identifier.ofValue_toValue _ table
  have hcolumns := SearchIndex.columnsOf_toValue ne
  unfold SearchQuery.statement askedPosition
  rw [htable, hcolumns]
  cases options.snippet <;> rfl

theorem askedPosition_ok {snippet : Option Int} (h : askedPosition columns options = .ok snippet) :
    snippet.isSome = options.snippet ∧ ∀ position, snippet = some position →
      snippetPosition columns options.snippetColumn = .ok position := by
  unfold askedPosition at h
  split at h
  · rename_i hs
    obtain ⟨position, hposition, rfl⟩ := Outcome.map_eq_ok.1 h
    refine ⟨hs.symm, fun other ho => ?_⟩
    cases ho
    exact hposition
  · rename_i hs
    cases h
    exact ⟨(Bool.eq_false_iff.2 hs).symm, fun other ho => by cases ho⟩

theorem statement_ok (h : SearchQuery.statement table.toValue (columns.map Identifier.toValue) query
    options limit = .ok statement) : columns ≠ [] ∧ ∃ snippet conditions,
      statement.sql = text table columns query options snippet conditions ∧
        (snippet.isSome = options.snippet) ∧
        ∀ position, snippet = some position →
          snippetPosition columns options.snippetColumn = .ok position := by
  have hne : columns ≠ [] := by
    rintro rfl
    obtain ⟨found, -, h⟩ := Outcome.bind_eq_ok.1 h
    cases h
  rw [statement_eq hne] at h
  obtain ⟨snippet, hsnippet, h⟩ := Outcome.bind_eq_ok.1 h
  obtain ⟨conditions, -, h⟩ := Outcome.bind_eq_ok.1 h
  obtain rfl := Except.ok.inj h
  exact ⟨hne, snippet, conditions, rfl, askedPosition_ok hsnippet⟩

theorem snippetPosition_ok {wanted : Option String} {position : Int}
    (h : snippetPosition columns wanted = .ok position) :
    position = columnNumber (columnNames columns) wanted ∧
      ∀ c ∈ wanted, c ∈ columnNames columns := by
  cases wanted with
  | none =>
      cases h
      exact ⟨rfl, by simp⟩
  | some c =>
      unfold snippetPosition at h
      simp only at h
      split at h
      · rename_i n hn
        cases h
        have hnames : (columnNames columns).findIdx? (· == c) = some n := by
          rw [columnNames, List.findIdx?_map]
          exact hn
        obtain ⟨hlt, hposition⟩ := List.findIdx?_eq_some_iff_findIdx_eq.1 hnames
        refine ⟨congrArg Int.ofNat hposition.symm, fun other ho => ?_⟩
        cases ho
        exact List.idxOf_lt_length_iff.1 (lt_of_eq_of_lt hposition hlt)
      · cases h

theorem projected_names (index : Identifier) (columns : List Identifier) {options : SearchOptions}
    {snippet : Option Int} (h : snippet.isSome = options.snippet) :
    (projected index columns options snippet).filterMap Projected.name? =
      Table.computedColumns columns options := by
  have hsnippet : ((snippet.map (snippetProjected index options)).toList).filterMap
      Projected.name? = if options.snippet then [snippetColumn] else [] := by
    cases snippet with
    | none =>
        rw [← h]
        rfl
    | some position =>
        rw [← h]
        rfl
  have hhighlights : (if options.highlight then
      columns.mapIdx fun position column => highlightProjected index options position column
      else []).filterMap Projected.name? =
        if options.highlight then columns.map fun column => highlightMark ++ column.text
        else [] := by
    split
    · have hname : Projected.name? ∘ (fun x : Identifier × Nat =>
          highlightProjected index options x.2 x.1) =
          some ∘ (fun column => highlightMark ++ column.text) ∘ Prod.fst := rfl
      rw [List.mapIdx_eq_zipIdx_map, List.filterMap_map, hname, List.filterMap_eq_map,
        ← List.map_map, List.zipIdx_map_fst]
    · rfl
  rw [projected, List.filterMap_append, List.filterMap_append, hsnippet, hhighlights]
  rfl

theorem mem_projected {index : Identifier} {snippet : Option Int} {item : Projected}
    (h : item ∈ projected index columns options snippet) : item = .all "base" ∨
      item = rankProjected index ∨
      (∃ position ∈ snippet, item = snippetProjected index options position) ∨
      options.highlight = true ∧ ∃ (i : Nat) (hi : i < columns.length),
        item = highlightProjected index options i columns[i] := by
  rcases List.mem_append.1 h with h | h
  · rcases List.mem_append.1 h with h | h
    · rcases List.mem_pair.1 h with rfl | rfl
      · exact Or.inl rfl
      · exact Or.inr (Or.inl rfl)
    · rw [Option.mem_toList, Option.map_eq_some_iff] at h
      obtain ⟨position, hp, rfl⟩ := h
      exact Or.inr (Or.inr (Or.inl ⟨position, hp, rfl⟩))
  · split at h
    · rename_i hon
      obtain ⟨i, hi, rfl⟩ := List.mem_mapIdx.1 h
      exact Or.inr (Or.inr (Or.inr ⟨hon, i, hi, rfl⟩))
    · cases h

theorem number_snippetProjected (index : Identifier) (options : SearchOptions) (position : Int) :
    (snippetProjected index options position).number? = some position :=
  readNumber_tokens position

theorem number_highlightProjected (index : Identifier) (options : SearchOptions) (position : Nat)
    (column : Identifier) :
    (highlightProjected index options position column).number? = some (position : Int) :=
  readNumber_tokens position

theorem rankColumn_ne (c : String) : rankColumn ≠ highlightMark ++ c := by
  intro h
  have hnone : Annotations.highlighted? rankColumn = none := by decide
  rw [h, Annotations.highlighted_append] at hnone
  cases hnone

theorem snippetColumn_ne (c : String) : snippetColumn ≠ highlightMark ++ c := by
  intro h
  have hnone : Annotations.highlighted? snippetColumn = none := by decide
  rw [h, Annotations.highlighted_append] at hnone
  cases hnone

theorem nodup_columnNames (nodup : columns.Nodup) : (columnNames columns).Nodup :=
  nodup.map fun _ _ h => Identifier.toValue_injective (congrArg Value.text h)

theorem count_computedColumns (nodup : columns.Nodup) (options : SearchOptions) {c : String}
    (hc : c ∈ columnNames columns) :
    (Table.computedColumns columns options).count (highlightMark ++ c) =
      if options.highlight then 1 else 0 := by
  have hsnippet : (if options.snippet then [snippetColumn] else []).count (highlightMark ++ c) =
      0 := by
    split
    · exact List.count_eq_zero.2 (by simpa using (snippetColumn_ne c).symm)
    · rfl
  have hhighlights : (columns.map fun column => highlightMark ++ column.text).count
      (highlightMark ++ c) = 1 := by
    have hmap : (columns.map fun column => highlightMark ++ column.text) =
        (columnNames columns).map (highlightMark ++ ·) := by
      rw [columnNames, List.map_map]
      rfl
    rw [hmap, List.count_map_of_injective _ _ fun _ _ => (String.append_right_inj _).1]
    exact List.count_eq_one_of_mem (nodup_columnNames nodup) hc
  rw [Table.computedColumns, List.count_cons_of_ne (rankColumn_ne c), List.count_append, hsnippet,
    Nat.zero_add]
  split
  · exact hhighlights
  · rfl

/-- Distinct columns are numbered by their positions. -/
theorem addresses_projected (index : Identifier) (nodup : columns.Nodup) {snippet : Option Int}
    (hs : snippet.isSome = options.snippet)
    (hp : ∀ position, snippet = some position →
      snippetPosition columns options.snippetColumn = .ok position) :
    Addresses (columnNames columns) options (projected index columns options snippet) where
  highlights item hm hcall := by
    rcases mem_projected hm with rfl | rfl | ⟨position, -, rfl⟩ | ⟨-, i, hi, rfl⟩
    · cases hcall
    · cases hcall
    · cases hcall
    · have hlt : i < (columnNames columns).length := by simpa [columnNames] using hi
      have hposition := (nodup_columnNames nodup).idxOf_getElem i hlt
      have hname : (columnNames columns)[i] = columns[i].text := by simp [columnNames]
      rw [hname] at hposition
      refine ⟨columns[i].text, List.mem_map_of_mem (List.getElem_mem hi), rfl, ?_⟩
      rw [columnNumber, hposition]
      exact number_highlightProjected index options i columns[i]
  named item hm c hname := by
    rcases mem_projected hm with rfl | rfl | ⟨position, -, rfl⟩ | ⟨-, i, hi, rfl⟩
    · cases hname
    · exact absurd (Option.some.inj hname) (rankColumn_ne c)
    · exact absurd (Option.some.inj hname) (snippetColumn_ne c)
    · rfl
  once c hc := by
    rw [projected_names index columns hs]
    exact count_computedColumns nodup options hc
  excerpt item hm hcall := by
    rcases mem_projected hm with rfl | rfl | ⟨position, hposition, rfl⟩ | ⟨-, i, hi, rfl⟩
    · cases hcall
    · cases hcall
    · obtain ⟨hnumber, hmem⟩ := snippetPosition_ok (hp position hposition)
      refine ⟨rfl, ?_, hmem⟩
      rw [number_snippetProjected, hnumber]
    · cases hcall

theorem highlighted_computedColumns (columns : List Identifier) (options : SearchOptions) :
    (Table.computedColumns columns options).filterMap Annotations.highlighted? =
      if options.highlight then columnNames columns else [] := by
  have hrank : Annotations.highlighted? rankColumn = none := by decide
  have hexcerpt : Annotations.highlighted? snippetColumn = none := by decide
  have hsnippet : (if options.snippet then [snippetColumn] else []).filterMap
      Annotations.highlighted? = [] := by
    split
    · rw [List.filterMap_cons_none hexcerpt, List.filterMap_nil]
    · rfl
  rw [Table.computedColumns, List.filterMap_cons_none hrank, List.filterMap_append, hsnippet,
    List.nil_append]
  split
  · have hname : Annotations.highlighted? ∘
        (fun column : Identifier => highlightMark ++ column.text) = some ∘ Identifier.text :=
      funext fun column => Annotations.highlighted_append column.text
    rw [List.filterMap_map, hname, List.filterMap_eq_map]
    rfl
  · rfl

/-- A search numbers the columns as the index of the same columns declares them, and each of its
hits comes apart into the columns of the table and what was computed of each column of the index. -/
theorem search_agrees_with_index (nodup : columns.Nodup)
    (h : SearchQuery.statement table.toValue (columns.map Identifier.toValue) query options limit =
      .ok statement) : ∃ statements index projection,
      SearchIndex.creationOf table.toValue (columns.map Identifier.toValue) = .ok statements ∧
      (statements.map fun made => readCommand made.sql).head? = some (some (.declare index)) ∧
      readProjection statement.sql = some projection ∧
      Addresses index.columns options projection ∧
      ∀ row own computed,
        Annotations.IsHit (projection.filterMap Projected.name?) own computed row →
          ∃ fields annotations, Annotations.split (some row) = .ok (fields, annotations) ∧
            Annotations.Parts (if options.highlight then index.columns else []) own computed row
              fields annotations := by
  obtain ⟨hne, snippet, conditions, hsql, hs, hp⟩ := statement_ok h
  have hread : readProjection statement.sql =
      some (projected (SearchIndex.name table) columns options snippet) := by
    rw [hsql]
    exact readProjection_text table columns query options snippet conditions
  refine ⟨_, SearchIndex.declaration table columns, _, SearchIndex.creationOf_toValue table hne,
    by rw [SearchIndex.read_creation table hne]; rfl, hread, addresses_projected _ nodup hs hp,
    fun row own computed hrow => ?_⟩
  rw [projected_names _ columns hs] at hrow
  obtain ⟨fields, annotations, hsplit, hparts⟩ := Annotations.split_of_isHit hrow
    List.mem_cons_self fun name hn => Table.isComputed_of_mem hn
  rw [highlighted_computedColumns] at hparts
  exact ⟨fields, annotations, hsplit, hparts⟩

def draftOwn : List (String × Value) := [("id", .int 1), ("title", .text "a draft")]

def draftComputed : List (String × Value) :=
  [("_fts_rank", .real (.ofInt 1)), ("_fts_snippet", .null),
    ("_fts_hl_title", .text "a <b>draft</b>"), ("_fts_hl_body", .text "")]

theorem draft_search_agrees :
    [(⟨"title", by decide⟩ : Identifier), ⟨"body", by decide⟩].Nodup ∧
    ∃ (options : SearchOptions) (statement : Statement) (statements : List Statement)
      (index : Declaration) (projection : List Projected),
      options.highlight = true ∧ options.snippet = true ∧
      SearchQuery.statement (.text "notes") [.text "title", .text "body"] "draft" options
        (.int 20) = .ok statement ∧
      SearchIndex.creationOf (.text "notes") [.text "title", .text "body"] = .ok statements ∧
      (statements.map fun made => readCommand made.sql).head? = some (some (.declare index)) ∧
      readProjection statement.sql = some projection ∧
      Addresses index.columns options projection ∧
      ∃ fields annotations,
        Annotations.split (some (Fields.ofColumns (named (draftOwn ++ draftComputed)))) =
          .ok (fields, annotations) ∧
        Annotations.Parts index.columns draftOwn draftComputed
          (Fields.ofColumns (named (draftOwn ++ draftComputed))) fields annotations := by
  have hnodup : [(⟨"title", by decide⟩ : Identifier), ⟨"body", by decide⟩].Nodup := by decide
  have hstatement : SearchQuery.statement (Identifier.toValue ⟨"notes", by decide⟩)
      ([⟨"title", by decide⟩, ⟨"body", by decide⟩].map Identifier.toValue) "draft"
      { highlight := true, snippet := true, snippetColumn := some "body" } (.int 20) =
        .ok ⟨text ⟨"notes", by decide⟩ [⟨"title", by decide⟩, ⟨"body", by decide⟩] "draft"
          { highlight := true, snippet := true, snippetColumn := some "body" } (some 1) [],
            [.int 20, .int 0]⟩ := rfl
  obtain ⟨statements, index, projection, hcreation, hindex, hread, haddresses, hrows⟩ :=
    search_agrees_with_index hnodup hstatement
  have hprojection := Option.some.inj (hread.symm.trans (readProjection_text _ _ _ _ _ _))
  have hrow : Annotations.IsHit (projection.filterMap Projected.name?) draftOwn draftComputed
      (Fields.ofColumns (named (draftOwn ++ draftComputed))) := by
    rw [hprojection]
    refine ⟨.of_eq rfl, by decide, rfl, fun v hv => ?_, fun v hv => ?_, fun c v hv => ?_⟩
    · have hrank := Annotations.lookup_of_mem (by decide) hv
      exact ⟨.ofInt 1, (Option.some.inj hrank).symm⟩
    · have hsnippet := Annotations.lookup_of_mem (by decide) hv
      exact ⟨none, (Option.some.inj hsnippet).symm⟩
    · simp only [draftComputed, List.mem_cons, Prod.mk.injEq, List.not_mem_nil, or_false] at hv
      rcases hv with ⟨h, -⟩ | ⟨h, -⟩ | ⟨-, rfl⟩ | ⟨-, rfl⟩
      · exact absurd h.symm (rankColumn_ne c)
      · exact absurd h.symm (snippetColumn_ne c)
      · exact ⟨_, rfl⟩
      · exact ⟨_, rfl⟩
  obtain ⟨fields, annotations, hsplit, hparts⟩ := hrows _ _ _ hrow
  exact ⟨hnodup, _, _, statements, index, projection, rfl, rfl, hstatement, hcreation, hindex,
    hread, haddresses, fields, annotations, hsplit, hparts⟩

end SearchQuery

end TableRecords
