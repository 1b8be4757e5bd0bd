import Mathlib
import TableRecords.Proofs.Outcome
import TableRecords.Proofs.Sql.Pieces
import TableRecords.Proofs.Sql.StoredValue
import TableRecords.Search.Query

/-! # Composed text

The clauses of statements, and what a search selects and from where, are composed of names, numbers
and literals. However many of them there are and whatever the literals hold, such text asks for no
parameter and has no character zero in it. What is put into a search besides is its query alone.
-/

namespace TableRecords

/-- A character that neither has a meaning of its own in a statement nor is refused in one. -/
def isPlain (c : Char) : Bool := !marks.contains c && c != '?' && c != '\x00'

/-- Plain text that a literal may follow: it ends in a space, and in no word that ends in `H`, such
as the one before the query of a search. -/
structure IsSeparator (separator : String) : Prop where
  plain : separator.toList.all isPlain = true
  ending : ∃ before c, separator.toList = before ++ [c, ' '] ∧ c ≠ 'H'

inductive Composed : String → Prop
  | plain {piece : String} (h : piece.toList.all isPlain = true) : Composed piece
  | number (n : Int) : Composed (toString n)
  | literal {head separator : String} (h : Composed head) (hs : IsSeparator separator)
      (v : Value) : Composed (head ++ separator ++ quote v)
  | append {piece next : String} (h : Composed piece) (hn : Composed next) :
      Composed (piece ++ next)

theorem isPlain_iff {c : Char} : isPlain c = true ↔ c ∉ marks ∧ c ≠ '?' ∧ c ≠ '\x00' := by
  simp [isPlain, and_assoc]

theorem unquoted_of_isPlain {c : Char} (h : isPlain c = true) : c ≠ '\'' := by
  rintro rfl
  exact absurd h (by decide)

theorem isPlain_of_isNameChar {c : Char} (h : isNameChar c = true) : isPlain c = true := by
  refine isPlain_iff.2 ⟨notMem_marks_of_isNameChar h, ?_, ?_⟩ <;>
    · rintro rfl
      exact absurd h (by decide)

theorem inert_of_all_isPlain {piece : String} (h : piece.toList.all isPlain = true) :
    Inert piece :=
  inert_of_plain fun c hc => (isPlain_iff.1 (List.all_eq_true.1 h c hc)).1

theorem IsSeparator.composed {separator : String} (h : IsSeparator separator) :
    Composed separator := .plain h.plain

theorem isSeparator_comma : IsSeparator ", " := ⟨by decide, [], ',', rfl, by decide⟩

namespace Composed

variable {piece : String}

theorem intercalate {separator : String} (hs : Composed separator) {pieces : List String}
    (h : ∀ piece ∈ pieces, Composed piece) : Composed (separator.intercalate pieces) :=
  intercalate_of_append (.plain rfl) append hs h

theorem inert (h : Composed piece) : Inert piece := by
  induction h with
  | plain h => exact inert_of_all_isPlain h
  | number n => exact inert_toString n
  | literal _ hs v ih => exact (ih.append (inert_of_all_isPlain hs.plain)).append (inert_quote v)
  | append _ _ ih ihn => exact ih.append ihn

theorem question_notMem_number {cs : List Char} (h : IsNumber cs) :
    '?' ∉ (toggle false cs).1 := by
  rw [h.toggle]
  exact fun hc => by simpa [isNumberChar] using h.isNumberChar_of_mem hc

theorem question_notMem_plain (h : piece.toList.all isPlain = true) :
    '?' ∉ (toggle false piece.toList).1 := by
  rw [toggle_of_unquoted fun c hc => unquoted_of_isPlain (List.all_eq_true.1 h c hc)]
  exact fun hc => (isPlain_iff.1 (List.all_eq_true.1 h '?' hc)).2.1 rfl

theorem question_notMem_quote (v : Value) : '?' ∉ (toggle false (quote v).toList).1 := by
  generalize hcs : (quote v).toList = cs
  have hliteral : IsLiteral cs := hcs ▸ isLiteral_quote v
  cases hliteral with
  | null => decide
  | number hn => exact question_notMem_number hn
  | quoted cs =>
      rw [quotedChars, toggle_quote, Bool.not_false, toggle_doubleQuotes]
      decide
  | bytes bytes =>
      rw [bytesChars, toggle_append]
      change '?' ∉ _ ++ (toggle true _).1
      rw [toggle_of_inside fun c hc => ne_quote_of_mem_hexChars hc]
      decide

theorem question_notMem_append {before after : Bool} {piece next : String}
    (hp : Passes before after piece) (h : '?' ∉ (toggle before piece.toList).1)
    (hn : '?' ∉ (toggle after next.toList).1) :
    '?' ∉ (toggle before (piece ++ next).toList).1 := by
  rw [String.toList_append, toggle_append, hp.state]
  simp [h, hn]

/-- Composed text has question marks in its literals alone. -/
theorem question_notMem (h : Composed piece) : '?' ∉ (toggle false piece.toList).1 := by
  induction h with
  | plain h => exact question_notMem_plain h
  | number n => exact question_notMem_number (isNumber_toString n)
  | literal h hs v ih =>
      exact question_notMem_append (h.append hs.composed).inert
        (question_notMem_append h.inert ih (question_notMem_plain hs.plain))
        (question_notMem_quote v)
  | append h _ ih ihn => exact question_notMem_append h.inert ih ihn

theorem zero_notMem_plain (h : piece.toList.all isPlain = true) : '\x00' ∉ piece.toList :=
  fun hc => (isPlain_iff.1 (List.all_eq_true.1 h _ hc)).2.2 rfl

theorem zero_notMem (h : Composed piece) : '\x00' ∉ piece.toList := by
  induction h with
  | plain h => exact zero_notMem_plain h
  | number n => exact IsNumber.zero_not_mem (isNumber_toString n)
  | literal _ hs v ih => simp [ih, zero_notMem_plain hs.plain, zero_not_mem_quote v]
  | append _ _ ih ihn => simp [ih, ihn]

end Composed

theorem Identifier.composed (name : Identifier) : Composed name.text :=
  .plain (List.all_eq_true.2 fun _ hc => isPlain_of_isNameChar (name.isNameChar_of_mem hc))

theorem Operator.notMem_unlisted (operator : Operator) {c : Char}
    (hc : c ∈ '?' :: '\x00' :: 'H' :: marks) : c ∉ operator.text.toList := by
  have hall : ('?' :: '\x00' :: 'H' :: marks).all (fun c =>
      c.toNat < 97 && comparisonOperators.all fun s => c ∉ s.toList) = true := by decide
  have hboth := List.all_eq_true.1 hall c hc
  simp only [Bool.and_eq_true, List.all_eq_true, decide_eq_true_eq] at hboth
  exact operator.notMem_text hboth.1 hboth.2

theorem Operator.all_isPlain (operator : Operator) : operator.text.toList.all isPlain = true := by
  refine List.all_eq_true.2 fun c hc => isPlain_iff.2 ⟨fun hm => ?_, ?_, ?_⟩
  · exact operator.notMem_unlisted (by simp [hm]) hc
  · rintro rfl
    exact operator.notMem_unlisted (by simp) hc
  · rintro rfl
    exact operator.notMem_unlisted (by simp) hc

theorem Operator.isSeparator (operator : Operator) : IsSeparator (operator.text ++ " ") where
  plain := by
    have hspace : isPlain ' ' = true := by decide
    rw [String.toList_append, List.all_append, operator.all_isPlain]
    simp [hspace]
  ending := by
    have hne : operator.text.toList ≠ [] := by
      intro h
      have hlisted := operator.listed
      rw [String.toList_eq_nil_iff.1 h] at hlisted
      exact absurd hlisted (by decide)
    refine ⟨operator.text.toList.dropLast, operator.text.toList.getLast hne, ?_, ?_⟩
    · have hlast := List.dropLast_append_getLast hne
      rw [String.toList_append]
      conv_lhs => rw [← hlast]
      rw [List.append_assoc]
      rfl
    · intro h
      exact operator.notMem_unlisted (c := 'H') (by simp) (h ▸ List.getLast_mem hne)

theorem Condition.composed (condition : Condition) : Composed condition.text := by
  have htext : condition.text = condition.column.text ++ " " ++ (condition.operator.text ++ " ") ++
      quote condition.value := by
    simp only [text, String.append_assoc]
  rw [htext]
  exact .literal (condition.column.composed.append (.plain (by decide)))
    condition.operator.isSeparator condition.value

theorem composed_whereClause (conditions : List Condition) :
    Composed (Condition.whereClause conditions) := by
  unfold Condition.whereClause
  split
  · exact .plain rfl
  · have hwhere : Composed " WHERE " := .plain (by decide)
    refine hwhere.append (Composed.intercalate (.plain (by decide)) fun piece hp => ?_)
    obtain ⟨condition, _, rfl⟩ := List.mem_map.1 hp
    exact condition.composed

/-! ## Searches -/

namespace SearchQuery

theorem composed_marked {opening : String} (h : Composed opening) (index : Identifier)
    (options : SearchOptions) (position : Int) : Composed (opening ++ index.text ++ ", " ++
      toString position ++ ", " ++ quote (.text options.openMark) ++ ", " ++
      quote (.text options.closeMark)) := by
  have hplace := ((h.append index.composed).append isSeparator_comma.composed).append
    (.number position)
  have hopen := hplace.literal isSeparator_comma (.text options.openMark)
  exact hopen.literal isSeparator_comma (.text options.closeMark)

theorem composed_snippetTerm (index : Identifier) (options : SearchOptions) (position : Int) :
    Composed (snippetTerm index options position) := by
  have hopening : Composed "snippet(" := .plain (by decide)
  have hmarked := composed_marked hopening index options position
  have hellipsis := hmarked.literal isSeparator_comma (.text options.ellipsis)
  have htokens := (hellipsis.append isSeparator_comma.composed).append
    (.number options.snippetTokens.val)
  exact (htokens.append (.plain (by decide))).append (.plain (by decide))

theorem composed_highlightTerm (index : Identifier) (options : SearchOptions) (position : Nat)
    (column : Identifier) : Composed (highlightTerm index options position column) := by
  have hopening : Composed "highlight(" := .plain (by decide)
  have hmarked := composed_marked hopening index options position
  exact ((hmarked.append (.plain (by decide))).append (.plain (by decide))).append column.composed

theorem composed_rankTerm (index : Identifier) : Composed (rankTerm index) :=
  (((.plain (by decide) : Composed "bm25(")).append index.composed).append (.plain (by decide))

theorem composed_of_mem_projection {index : Identifier} {columns : List Identifier}
    {options : SearchOptions} {snippet : Option Int} {piece : String}
    (hp : piece ∈ projection index columns options snippet) : Composed piece := by
  simp only [projection, List.mem_append, List.mem_cons, List.not_mem_nil, or_false] at hp
  rcases hp with ((rfl | rfl) | hp) | hp
  · exact .plain (by decide)
  · exact ((composed_rankTerm index).append (.plain (by decide))).append (.plain (by decide))
  · obtain ⟨position, _, rfl⟩ := Option.map_eq_some_iff.1 (Option.mem_toList.1 hp)
    exact composed_snippetTerm index options position
  · split at hp
    · obtain ⟨position, h, rfl⟩ := List.mem_mapIdx.1 hp
      exact composed_highlightTerm index options position _
    · cases hp

theorem composed_searched (table : Identifier) (conditions : List Condition) :
    Composed (searched table conditions) := by
  unfold searched
  split
  · exact table.composed
  · have hopening : Composed "(SELECT * FROM " := .plain (by decide)
    exact ((hopening.append table.composed).append (composed_whereClause conditions)).append
      (.plain (by decide))

/-- The text of a search up to the word before its query. -/
def opening (table : Identifier) (columns : List Identifier) (options : SearchOptions)
    (snippet : Option Int) (conditions : List Condition) : String :=
  let index := SearchIndex.name table
  "SELECT " ++ ", ".intercalate (projection index columns options snippet) ++ " FROM " ++
    index.text ++ " JOIN " ++ searched table conditions ++ " AS base ON base." ++
    primaryKey.text ++ " = " ++ index.text ++ ".rowid WHERE " ++ index.text

theorem text_eq (table : Identifier) (columns : List Identifier) (query : String)
    (options : SearchOptions) (snippet : Option Int) (conditions : List Condition) :
    text table columns query options snippet conditions =
      opening table columns options snippet conditions ++ " MATCH '" ++
        escapeText (.text (matchText query options)) ++ "' ORDER BY " ++
        rankTerm (SearchIndex.name table) ++ " LIMIT ? OFFSET ?" := rfl

theorem composed_opening (table : Identifier) (columns : List Identifier)
    (options : SearchOptions) (snippet : Option Int) (conditions : List Condition) :
    Composed (opening table columns options snippet conditions) := by
  have hselect : Composed "SELECT " := .plain (by decide)
  have hfrom : Composed " FROM " := .plain (by decide)
  have hjoin : Composed " JOIN " := .plain (by decide)
  have hbase : Composed " AS base ON base." := .plain (by decide)
  have hequals : Composed " = " := .plain (by decide)
  have hwhere : Composed ".rowid WHERE " := .plain (by decide)
  have hindex := (SearchIndex.name table).composed
  have hprojection : Composed
      (", ".intercalate (projection (SearchIndex.name table) columns options snippet)) :=
    isSeparator_comma.composed.intercalate fun _ => composed_of_mem_projection
  have hrows := (((hselect.append hprojection).append hfrom).append hindex).append hjoin
  have hjoined := ((((hrows.append (composed_searched table conditions)).append hbase).append
    primaryKey.composed).append hequals).append hindex
  exact (hjoined.append hwhere).append hindex

/-- What a search sends, whatever it was built of: its query stands between composed text. -/
theorem exists_text {table limit : Value} {columns : List Value} {query : String}
    {options : SearchOptions} {statement : Statement}
    (h : SearchQuery.statement table columns query options limit = .ok statement) :
    ∃ name names snippet conditions,
      statement.sql = text name names query options snippet conditions ∧
        statement.params = [limit, .int options.offset.val] := by
  obtain ⟨name, _, h⟩ := Outcome.bind_eq_ok.1 h
  obtain ⟨names, _, h⟩ := Outcome.bind_eq_ok.1 h
  split at h
  all_goals
    obtain ⟨snippet, _, h⟩ := Outcome.bind_eq_ok.1 h
    obtain ⟨conditions, _, h⟩ := Outcome.bind_eq_ok.1 h
    obtain rfl := Except.ok.inj h
    exact ⟨name, names, snippet, conditions, rfl, rfl⟩

end SearchQuery

end TableRecords
