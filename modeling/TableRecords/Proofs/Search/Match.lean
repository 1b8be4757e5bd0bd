import Mathlib
import TableRecords.Proofs.Sql.Composition
import TableRecords.Proofs.Text.Words

/-! # The query of a search

The query stands in a literal behind `MATCH`. A reader finds this literal in the text of a search,
however many others stand before it, and takes it apart: what it gives is the query as it was, or a
row of strings that are the words of the query. In such a row nothing but spaces stands outside of
strings, so no word of the query has a meaning of its own.
-/

namespace TableRecords

/-- The strings of a row that begins within one, of which `read` holds what was read, last character
first. Two double quotes in a row are one of the string, and one space parts two strings. -/
def stringsFrom (read : List Char) : List Char → Option (List (List Char))
  | [] => none
  | ['"'] => some [read.reverse]
  | '"' :: '"' :: cs => stringsFrom ('"' :: read) cs
  | '"' :: ' ' :: '"' :: cs => (stringsFrom [] cs).map (read.reverse :: ·)
  | '"' :: _ => none
  | c :: cs => stringsFrom (c :: read) cs

def readStrings? : List Char → Option (List (List Char))
  | [] => some []
  | '"' :: cs => stringsFrom [] cs
  | _ => none

/-- What stands outside of strings. -/
def outsideStrings : Bool → List Char → List Char
  | _, [] => []
  | inside, c :: cs =>
    if c = '"' then outsideStrings (!inside) cs
    else if inside then outsideStrings inside cs
    else c :: outsideStrings inside cs

theorem stringsFrom_cons {c : Char} (hc : c ≠ '"') (read cs : List Char) :
    stringsFrom read (c :: cs) = stringsFrom (c :: read) cs := by
  rw [stringsFrom.eq_def]
  split <;> simp_all

theorem stringsFrom_doubleWordQuotes (word read rest : List Char) :
    stringsFrom read (doubleWordQuotes word ++ '"' :: rest) =
      stringsFrom (word.reverse ++ read) ('"' :: rest) := by
  induction word using doubleWordQuotes.induct generalizing read with
  | case1 => rfl
  | case2 word ih => simp [doubleWordQuotes, stringsFrom, ih]
  | case3 c word hc ih =>
      have hne : c ≠ '"' := hc
      simp [doubleWordQuotes, stringsFrom_cons hne, ih]

theorem toList_quotedWord (word : List Char) :
    (quotedWord word).toList = '"' :: (doubleWordQuotes word ++ ['"']) := by
  have hquote : "\"".toList = ['"'] := rfl
  simp [quotedWord, hquote]

/-- A row of quoted words is read as these words. -/
theorem readStrings_quotedWords (found : List (List Char)) :
    readStrings? (" ".intercalate (found.map quotedWord)).toList = some found := by
  induction found with
  | nil => rfl
  | cons word rest ih =>
      cases rest with
      | nil =>
          rw [List.map_singleton, String.intercalate_singleton, toList_quotedWord, readStrings?,
            stringsFrom_doubleWordQuotes]
          simp [stringsFrom]
      | cons next rest =>
          have hspace : " ".toList = [' '] := rfl
          obtain ⟨cs, hcs⟩ : ∃ cs,
              (" ".intercalate ((next :: rest).map quotedWord)).toList = '"' :: cs := by
            cases rest with
            | nil => simp [toList_quotedWord]
            | cons other rest => simp [String.intercalate_cons_cons, toList_quotedWord]
          have hrow : (" ".intercalate ((word :: next :: rest).map quotedWord)).toList =
              '"' :: (doubleWordQuotes word ++ '"' :: ' ' :: '"' :: cs) := by
            rw [List.map_cons, List.map_cons, String.intercalate_cons_cons, ← List.map_cons,
              String.toList_append, String.toList_append, hcs, toList_quotedWord, hspace]
            simp
          rw [hcs, readStrings?] at ih
          rw [hrow, readStrings?, stringsFrom_doubleWordQuotes, stringsFrom, ih]
          simp

theorem readStrings_literalQuery (query : String) :
    readStrings? (literalQuery query).toList = some (words query.toList) :=
  readStrings_quotedWords (words query.toList)

/-- In whatever is read as a row of strings only spaces stand outside of them. -/
theorem outsideStrings_of_stringsFrom {read cs : List Char} {found : List (List Char)}
    (h : stringsFrom read cs = some found) : ∀ c ∈ outsideStrings true cs, c = ' ' := by
  induction read, cs using stringsFrom.induct generalizing found with
  | case1 => cases h
  | case2 => simp [outsideStrings]
  | case3 read cs ih =>
      rw [stringsFrom] at h
      simpa [outsideStrings] using ih h
  | case4 read cs ih =>
      rw [stringsFrom] at h
      obtain ⟨rest, hrest, rfl⟩ := Option.map_eq_some_iff.1 h
      simpa [outsideStrings] using ih hrest
  | case5 read cs h1 h2 h3 =>
      rw [stringsFrom.eq_5 _ _ h1 h2 h3] at h
      cases h
  | case6 read c cs _ _ _ hc ih =>
      have hne : c ≠ '"' := hc
      rw [stringsFrom_cons hne] at h
      simpa [outsideStrings, hne] using ih h

theorem outsideStrings_of_readStrings {cs : List Char} {found : List (List Char)}
    (h : readStrings? cs = some found) : ∀ c ∈ outsideStrings false cs, c = ' ' := by
  unfold readStrings? at h
  split at h
  · simp [outsideStrings]
  · simpa [outsideStrings] using outsideStrings_of_stringsFrom h
  · cases h

/-! ## The literal behind `MATCH` -/

def matchWord : List Char := [' ', 'M', 'A', 'T', 'C', 'H', ' ']

/-- What follows the quote that opens the first literal right behind the word, outside of literals.
`read` holds what was read since the last literal, last character first. -/
def seekMatch : Bool → List Char → List Char → Option (List Char)
  | _, _, [] => none
  | true, read, c :: cs => if c = '\'' then seekMatch false [] cs else seekMatch true read cs
  | false, read, c :: cs =>
    if c = '\'' then if matchWord.reverse.isPrefixOf read then some cs else seekMatch true [] cs
    else seekMatch false (c :: read) cs

/-- The text of the literal behind `MATCH`, and what follows this literal. -/
def readMatch? (sql : String) : Option (String × String) := do
  let cs ← seekMatch false [] sql.toList
  let (literal, after) ← readQuoted cs
  let argument ← StoredValue.unquote? literal
  pure (String.ofList argument, String.ofList after)

/-- Whether the search goes on behind a piece of text, whatever follows it. -/
def GoesPast (read piece : List Char) : Prop :=
  ∃ read', ∀ rest, seekMatch false read (piece ++ rest) = seekMatch false read' rest

theorem seekMatch_unquoted {cs : List Char} (h : ∀ c ∈ cs, c ≠ '\'') (read rest : List Char) :
    seekMatch false read (cs ++ rest) = seekMatch false (cs.reverse ++ read) rest := by
  induction cs generalizing read with
  | nil => rfl
  | cons c cs ih =>
      have hc : c ≠ '\'' := h c List.mem_cons_self
      have hrest := ih (fun d hd => h d (List.mem_cons_of_mem c hd)) (c :: read)
      simp [seekMatch, hc, hrest]

theorem seekMatch_inside {cs : List Char} (h : ∀ c ∈ cs, c ≠ '\'') (read rest : List Char) :
    seekMatch true read (cs ++ rest) = seekMatch true read rest := by
  induction cs with
  | nil => rfl
  | cons c cs ih =>
      have hc : c ≠ '\'' := h c List.mem_cons_self
      have hrest := ih fun d hd => h d (List.mem_cons_of_mem c hd)
      simp [seekMatch, hc, hrest]

/-- Two quotes in a row close a literal and open one that no word stands before. -/
theorem seekMatch_doubleQuotes (cs rest : List Char) :
    seekMatch true [] (doubleQuotes cs ++ '\'' :: rest) = seekMatch false [] rest := by
  induction cs using doubleQuotes.induct with
  | case1 => simp [doubleQuotes, seekMatch]
  | case2 cs ih => simpa [doubleQuotes, seekMatch, matchWord] using ih
  | case3 c cs hc ih =>
      have hne : c ≠ '\'' := hc
      simpa [doubleQuotes, seekMatch, hne] using ih

theorem seekMatch_quote {read : List Char} (h : matchWord.reverse.isPrefixOf read = false)
    (rest : List Char) : seekMatch false read ('\'' :: rest) = seekMatch true [] rest := by
  simp [seekMatch, h]

theorem GoesPast.unquoted {cs : List Char} (h : ∀ c ∈ cs, c ≠ '\'') (read : List Char) :
    GoesPast read cs := ⟨_, seekMatch_unquoted h read⟩

theorem GoesPast.number {cs : List Char} (h : IsNumber cs) (read : List Char) :
    GoesPast read cs := by
  refine .unquoted (fun c hc => ?_) read
  rintro rfl
  simpa [isNumberChar] using h.isNumberChar_of_mem hc

theorem IsLiteral.goesPast {cs : List Char} (h : IsLiteral cs) {c : Char} (hc : c ≠ 'H')
    (read : List Char) : GoesPast (' ' :: c :: read) cs := by
  have hword : matchWord.reverse.isPrefixOf (' ' :: c :: read) = false := by
    have hne : ('H' == c) = false := beq_eq_false_iff_ne.2 hc.symm
    simp [matchWord, List.isPrefixOf, hne]
  cases h with
  | null => exact .unquoted (by simp [nullWord]) _
  | number hn => exact .number hn _
  | quoted cs =>
      refine ⟨[], fun rest => ?_⟩
      rw [quotedChars, List.cons_append, seekMatch_quote hword, List.append_assoc]
      exact seekMatch_doubleQuotes cs rest
  | bytes bytes =>
      have hcast : ∀ d ∈ ['C', 'A', 'S', 'T', '(', 'X'], d ≠ '\'' := by simp
      have htext : ∀ d ∈ [' ', 'A', 'S', ' ', 'T', 'E', 'X', 'T', ')'], d ≠ '\'' := by simp
      have hhex : ∀ d ∈ (hexChars bytes).map Char.toUpper, d ≠ '\'' := fun d hd =>
        ne_quote_of_mem_hexChars hd
      refine ⟨[' ', 'A', 'S', ' ', 'T', 'E', 'X', 'T', ')'].reverse ++ [], fun rest => ?_⟩
      have hcs : bytesChars bytes ++ rest = ['C', 'A', 'S', 'T', '(', 'X'] ++ '\'' ::
          ((hexChars bytes).map Char.toUpper ++ '\'' ::
            ([' ', 'A', 'S', ' ', 'T', 'E', 'X', 'T', ')'] ++ rest)) := by
        simp [bytesChars, bytesOpening, bytesClosing]
      have hcast' : matchWord.reverse.isPrefixOf
          (['C', 'A', 'S', 'T', '(', 'X'].reverse ++ ' ' :: c :: read) = false := rfl
      rw [hcs, seekMatch_unquoted hcast, seekMatch_quote hcast', seekMatch_inside hhex,
        seekMatch, if_pos rfl]
      exact seekMatch_unquoted htext [] rest

theorem Composed.goesPast {piece : String} (h : Composed piece) (read : List Char) :
    GoesPast read piece.toList := by
  induction h generalizing read with
  | plain h => exact .unquoted (fun c hc => unquoted_of_isPlain (List.all_eq_true.1 h c hc)) read
  | number n => exact .number (isNumber_toString n) read
  | @literal head separator _ hs v ih =>
      obtain ⟨read', hread⟩ := ih read
      obtain ⟨before, c, hseparator, hc⟩ := hs.ending
      obtain ⟨read'', hquote⟩ := (isLiteral_quote v).goesPast hc (before.reverse ++ read')
      have hunquoted : ∀ d ∈ separator.toList, d ≠ '\'' := fun d hd =>
        unquoted_of_isPlain (List.all_eq_true.1 hs.plain d hd)
      refine ⟨read'', fun rest => ?_⟩
      rw [String.toList_append, String.toList_append, List.append_assoc, List.append_assoc, hread,
        seekMatch_unquoted hunquoted, ← hquote, hseparator]
      simp
  | append _ _ ih ihn =>
      obtain ⟨read', hread⟩ := ih read
      obtain ⟨read'', hnext⟩ := ihn read'
      exact ⟨read'', fun rest => by
        rw [String.toList_append, List.append_assoc, hread, hnext]⟩

namespace SearchQuery

/-- The literal behind `MATCH` is found in the text of a search and read to its end. -/
theorem readMatch_text (table : Identifier) (columns : List Identifier) (query : String)
    (options : SearchOptions) (snippet : Option Int) (conditions : List Condition) :
    readMatch? (text table columns query options snippet conditions) =
      some (matchText query options,
        " ORDER BY " ++ rankTerm (SearchIndex.name table) ++ " LIMIT ? OFFSET ?") := by
  obtain ⟨read, hopening⟩ := (composed_opening table columns options snippet conditions).goesPast []
  generalize hafter : " ORDER BY " ++ rankTerm (SearchIndex.name table) ++ " LIMIT ? OFFSET ?" =
    after
  have hboundary : ∀ c ∈ after.toList.head?, c ≠ '\'' := by
    rw [← hafter]
    simp
  have htext : (text table columns query options snippet conditions).toList =
      (opening table columns options snippet conditions).toList ++ (matchWord ++ '\'' ::
        (doubleQuotes (matchText query options).toList ++ '\'' :: after.toList)) := by
    have hopen : " MATCH '".toList = matchWord ++ ['\''] := rfl
    have hclose : "' ORDER BY ".toList = '\'' :: " ORDER BY ".toList := rfl
    rw [text_eq, ← hafter]
    simp only [String.toList_append, hopen, hclose, escapeText, String.toList_ofList,
      Value.toText, List.append_assoc, List.cons_append, List.nil_append]
  have hfound : matchWord.reverse.isPrefixOf (matchWord.reverse ++ read) = true := by
    rw [List.isPrefixOf_iff_prefix]
    exact List.prefix_append _ _
  rw [readMatch?, htext, hopening, seekMatch_unquoted (by simp [matchWord]), seekMatch, if_pos rfl,
    if_pos hfound]
  simp only [Option.bind_eq_bind, Option.bind_some, readQuoted_doubleQuotes _ hboundary,
    StoredValue.unquote_doubleQuotes, String.ofList_toList]
  rfl

/-- The literal behind `MATCH` ends right before the order of the hits. What is read of it is the
query as it was, or a row of strings, with nothing but spaces outside of them, that are the words
into which the query comes apart. There is none exactly if the query is white space. -/
theorem argument_reads_back {table limit : Value} {columns : List Value} {query : String}
    {options : SearchOptions} {statement : Statement}
    (h : SearchQuery.statement table columns query options limit = .ok statement) :
    ∃ (argument : String) (index : Identifier),
      readMatch? statement.sql =
        some (argument, " ORDER BY " ++ rankTerm index ++ " LIMIT ? OFFSET ?") ∧
      (options.literal = false → argument = query) ∧
      (options.literal = true → ∃ found, readStrings? argument.toList = some found ∧
        SplitsInto query.toList found ∧ (found = [] ↔ trimBoth isWhite query.toList = []) ∧
        ∀ c ∈ outsideStrings false argument.toList, c = ' ') := by
  obtain ⟨name, names, snippet, conditions, hsql, -⟩ := exists_text h
  refine ⟨matchText query options, SearchIndex.name name, ?_, fun hliteral => ?_,
    fun hliteral => ?_⟩
  · rw [hsql, readMatch_text]
  · rw [matchText, hliteral]
    rfl
  · have hmatch : matchText query options = literalQuery query := by
      rw [matchText, hliteral]
      rfl
    have hread := readStrings_literalQuery query
    have hsplits : SplitsInto query.toList (words query.toList) := splitsInto_iff.2 rfl
    rw [hmatch]
    refine ⟨_, hread, hsplits, ?_, outsideStrings_of_readStrings hread⟩
    rw [hsplits.eq_nil_iff, trimBoth_eq_nil_iff]

theorem quotes_read_back : ∃ statement,
    SearchQuery.statement (.text "notes") [.text "title"] " it's\t\"so\"\u3000 *"
      { literal := true } (.int 20) = .ok statement ∧
    ∃ argument after, readMatch? statement.sql = some (argument, after) ∧
      readStrings? argument.toList = some ["it's".toList, "\"so\"".toList, "*".toList] ∧
      SplitsInto " it's\t\"so\"\u3000 *".toList ["it's".toList, "\"so\"".toList, "*".toList] := by
  have hstatement : SearchQuery.statement (.text "notes") [.text "title"] " it's\t\"so\"\u3000 *"
      { literal := true } (.int 20) = .ok ⟨text ⟨"notes", by decide⟩ [⟨"title", by decide⟩]
        " it's\t\"so\"\u3000 *" { literal := true } none [], [.int 20, .int 0]⟩ := rfl
  obtain ⟨argument, index, hread, -, hliteral⟩ := argument_reads_back hstatement
  obtain ⟨found, hstrings, hsplits, -⟩ := hliteral rfl
  have hfound : found = ["it's".toList, "\"so\"".toList, "*".toList] := splitsInto_iff.1 hsplits
  subst hfound
  exact ⟨_, hstatement, argument, _, hread, hstrings, hsplits⟩

/-! ## The character zero -/

theorem mem_doubleQuotes {c : Char} {cs : List Char} : c ∈ doubleQuotes cs ↔ c ∈ cs := by
  refine ⟨mem_of_mem_doubleQuotes, fun h => ?_⟩
  induction cs using doubleQuotes.induct with
  | case1 => exact h
  | case2 cs ih =>
      rcases List.mem_cons.1 h with rfl | h
      · simp [doubleQuotes]
      · simp [doubleQuotes, ih h]
  | case3 d cs hd ih =>
      rcases List.mem_cons.1 h with rfl | h
      · simp [doubleQuotes]
      · simp [doubleQuotes, ih h]

theorem mem_doubleWordQuotes {c : Char} {cs : List Char} : c ∈ doubleWordQuotes cs ↔ c ∈ cs := by
  induction cs using doubleWordQuotes.induct with
  | case1 => simp [doubleWordQuotes]
  | case2 cs ih => simp [doubleWordQuotes, ih]
  | case3 d cs hd ih => simp [doubleWordQuotes, ih]

theorem mem_quotedWords {c : Char} (hs : c ≠ ' ') (hq : c ≠ '"') (found : List (List Char)) :
    c ∈ (" ".intercalate (found.map quotedWord)).toList ↔ c ∈ found.flatten := by
  have hspace : " ".toList = [' '] := rfl
  induction found with
  | nil => simp
  | cons word rest ih =>
      cases rest with
      | nil => simp [toList_quotedWord, mem_doubleWordQuotes, hq]
      | cons next rest =>
          rw [List.map_cons, List.map_cons, String.intercalate_cons_cons, ← List.map_cons,
            String.toList_append, String.toList_append, List.flatten_cons]
          simp only [List.mem_append, ih, hspace, toList_quotedWord]
          simp [mem_doubleWordQuotes, hs, hq]

theorem zero_mem_matchText {query : String} {options : SearchOptions} :
    '\x00' ∈ (matchText query options).toList ↔ '\x00' ∈ query.toList := by
  have hwhite : isWhite '\x00' = false := by decide
  unfold matchText
  split
  · rw [literalQuery, mem_quotedWords (by decide) (by decide), (splitsInto_iff.2 rfl).flatten_eq]
    simp [hwhite]
  · rfl

/-- Of all that a search is built of, the query alone brings the character zero into its text:
literals spell it by its bytes, but the query is only escaped. -/
theorem zero_mem_sql_iff {table limit : Value} {columns : List Value} {query : String}
    {options : SearchOptions} {statement : Statement}
    (h : SearchQuery.statement table columns query options limit = .ok statement) :
    '\x00' ∈ statement.sql.toList ↔ '\x00' ∈ query.toList := by
  obtain ⟨name, names, snippet, conditions, hsql, -⟩ := exists_text h
  have hopening := (composed_opening name names options snippet conditions).zero_notMem
  have hrank := (composed_rankTerm (SearchIndex.name name)).zero_notMem
  rw [hsql, text_eq]
  simp [escapeText, Value.toText, mem_doubleQuotes, zero_mem_matchText, hopening, hrank]

theorem zero_in_marks_notMem : ∃ statement,
    SearchQuery.statement (.text "notes") [.text "title"] "draft"
      { highlight := true, openMark := "\x00",
        conditions := some (Fields.ofColumns [(.text "title", .text "a\x00b")]) } (.int 20) =
        .ok statement ∧ '\x00' ∉ statement.sql.toList := by
  have hstatement : SearchQuery.statement (.text "notes") [.text "title"] "draft"
      { highlight := true, openMark := "\x00",
        conditions := some (Fields.ofColumns [(.text "title", .text "a\x00b")]) } (.int 20) =
        .ok ⟨text ⟨"notes", by decide⟩ [⟨"title", by decide⟩] "draft"
          { highlight := true, openMark := "\x00",
            conditions := some (Fields.ofColumns [(.text "title", .text "a\x00b")]) } none
          [⟨⟨"title", by decide⟩, Operator.equals, .text "a\x00b"⟩], [.int 20, .int 0]⟩ := rfl
  refine ⟨_, hstatement, fun hzero => ?_⟩
  exact absurd ((zero_mem_sql_iff hstatement).1 hzero) (by decide)

/-- A query with the character zero does. -/
theorem zero_in_query_mem : ∃ statement,
    SearchQuery.statement (.text "posts") [.text "title"] "a\x00b" {} (.int 10) =
      .ok statement ∧ '\x00' ∈ statement.sql.toList := by
  refine ⟨_, rfl, ?_⟩
  decide +kernel

end SearchQuery

end TableRecords
