import Mathlib
import TableRecords.Proofs.Sql.LiteralReader
import TableRecords.Proofs.Sql.Words

/-! # Tokens of statements

The text of a statement is a row of words, literals and single characters. A lexer goes through it
from left to right; a space ends a word and is no token. The tokens of pieces of text that do not
grow together are the tokens of the text they make.
-/

namespace TableRecords

/-- A word of name characters, a literal by the text it stands for, or any other character. -/
inductive Token where
  | word (s : String)
  | literal (s : String)
  | mark (c : Char)
deriving DecidableEq, Repr

/-- What a lexer is in the middle of, with what it has read of it. -/
inductive LexState where
  | between
  | word (cs : List Char)
  | literal (cs : List Char)
  | quote (cs : List Char)

namespace LexState

def start (c : Char) : List Token × LexState :=
  if c = ' ' then ([], between)
  else if c = '\'' then ([], literal [])
  else if isNameChar c then ([], word [c])
  else ([.mark c], between)

def finish : LexState → Option (List Token)
  | between => some []
  | word cs => some [.word (String.ofList cs)]
  | literal _ => none
  | quote cs => some [.literal (String.ofList cs)]

def advance (c : Char) : LexState → List Token × LexState
  | between => start c
  | word cs =>
    if isNameChar c then ([], word (cs ++ [c]))
    else (.word (String.ofList cs) :: (start c).1, (start c).2)
  | literal cs => if c = '\'' then ([], quote cs) else ([], literal (cs ++ [c]))
  | quote cs =>
    if c = '\'' then ([], literal (cs ++ ['\'']))
    else (.literal (String.ofList cs) :: (start c).1, (start c).2)

end LexState

def lexFrom : LexState → List Char → List Token × LexState
  | state, [] => ([], state)
  | state, c :: cs =>
    let (tokens, state) := state.advance c
    let (more, state) := lexFrom state cs
    (tokens ++ more, state)

/-- The tokens of a text; none if it ends inside of a literal. -/
def tokens? (sql : String) : Option (List Token) :=
  let (tokens, state) := lexFrom .between sql.toList
  state.finish.map (tokens ++ ·)

theorem lexFrom_append (state : LexState) (cs ds : List Char) :
    lexFrom state (cs ++ ds) =
      ((lexFrom state cs).1 ++ (lexFrom (lexFrom state cs).2 ds).1,
        (lexFrom (lexFrom state cs).2 ds).2) := by
  induction cs generalizing state with
  | nil => rfl
  | cons c cs ih => simp [lexFrom, ih]

/-! ## Pieces -/

def Lexes (piece : String) (tokens : List Token) : Prop := tokens? piece = some tokens

instance (piece : String) (tokens : List Token) : Decidable (Lexes piece tokens) :=
  inferInstanceAs (Decidable (tokens? piece = some tokens))

/-- Whether two characters would be read as parts of one token. -/
def grows (c d : Char) : Bool := (isNameChar c && isNameChar d) || (c == '\'' && d == '\'')

/-- Whether two pieces stay apart when one follows the other. -/
def Apart (piece next : String) : Prop :=
  ∀ c ∈ piece.toList.getLast?, ∀ d ∈ next.toList.head?, grows c d = false

/-- A character that is never read together with another one. -/
def isLone (c : Char) : Bool := !isNameChar c && c != '\''

/-- Whether text may stand between any pieces. -/
def standsAlone (between : String) : Bool :=
  between.toList.head?.any isLone && between.toList.getLast?.any isLone

theorem not_grows_left {c : Char} (h : isLone c = true) (d : Char) : grows c d = false := by
  simp only [isLone, Bool.and_eq_true, Bool.not_eq_true', bne_iff_ne] at h
  simp [grows, h.1, h.2]

theorem not_grows_right {d : Char} (h : isLone d = true) (c : Char) : grows c d = false := by
  simp only [isLone, Bool.and_eq_true, Bool.not_eq_true', bne_iff_ne] at h
  simp [grows, h.1, h.2]

/-- What is read last tells how the lexer goes on. -/
def LexState.Follows (last : Option Char) : LexState → Prop
  | between => True
  | word _ => ∃ c ∈ last, isNameChar c = true
  | literal _ => True
  | quote _ => ∃ c ∈ last, c = '\''

theorem LexState.follows_start (c : Char) : (start c).2.Follows (some c) := by
  unfold start
  split_ifs with hs hq hn
  · trivial
  · trivial
  · exact ⟨c, rfl, hn⟩
  · trivial

theorem LexState.follows_advance (c : Char) (state : LexState) :
    (state.advance c).2.Follows (some c) := by
  cases state with
  | between => exact follows_start c
  | word cs =>
      rw [advance]
      split_ifs with hn
      · exact ⟨c, rfl, hn⟩
      · exact follows_start c
  | literal cs =>
      rw [advance]
      split_ifs with hq
      · exact ⟨c, rfl, hq⟩
      · trivial
  | quote cs =>
      rw [advance]
      split_ifs
      · trivial
      · exact follows_start c

theorem follows_lexFrom {state : LexState} {last : Option Char} (h : state.Follows last)
    (cs : List Char) : (lexFrom state cs).2.Follows (cs.getLast?.or last) := by
  induction cs generalizing state last with
  | nil => exact h
  | cons c cs ih =>
      have hrest := ih (state.follows_advance c)
      rw [List.getLast?_cons]
      cases hlast : cs.getLast? <;> simpa [lexFrom, hlast] using hrest

theorem LexState.advance_of_apart {state : LexState} {c d : Char} {tokens : List Token}
    (h : state.Follows (some c)) (apart : grows c d = false) (hf : state.finish = some tokens) :
    state.advance d = (tokens ++ (start d).1, (start d).2) := by
  cases state with
  | between =>
      cases hf
      rfl
  | word cs =>
      obtain ⟨_, hc, hn⟩ := h
      cases hc
      cases hf
      have hd : isNameChar d = false := by
        simp only [grows, hn, Bool.true_and, Bool.or_eq_false_iff] at apart
        exact apart.1
      simp [advance, hd]
  | literal cs => cases hf
  | quote cs =>
      obtain ⟨_, hc, rfl⟩ := h
      cases hc
      cases hf
      have hd : d ≠ '\'' := by
        rintro rfl
        simp [grows] at apart
      simp [advance, hd]

namespace Lexes

variable {piece next : String} {tokens more : List Token}

theorem append (h : Lexes piece tokens) (hn : Lexes next more) (apart : Apart piece next) :
    Lexes (piece ++ next) (tokens ++ more) := by
  unfold Lexes tokens? at h hn ⊢
  obtain ⟨first, hfirst, rfl⟩ := Option.map_eq_some_iff.1 h
  obtain ⟨second, hsecond, rfl⟩ := Option.map_eq_some_iff.1 hn
  have hbetween : LexState.between.Follows none := trivial
  have hfollows := follows_lexFrom hbetween piece.toList
  rw [Option.or_none] at hfollows
  rw [String.toList_append, lexFrom_append]
  generalize (lexFrom .between piece.toList).1 = read at *
  generalize (lexFrom .between piece.toList).2 = state at *
  unfold Apart at apart
  cases hnext : next.toList with
  | nil =>
      rw [hnext] at hsecond
      cases hsecond
      simp [lexFrom, hfirst]
  | cons d ds =>
      rw [hnext] at hsecond apart
      have hadvance : state.advance d = (first ++ (LexState.start d).1, (LexState.start d).2) := by
        cases hlast : piece.toList.getLast? with
        | none =>
            -- nothing was read before
            rw [hlast] at hfollows
            cases state with
            | between =>
                cases hfirst
                rfl
            | word cs => simp [LexState.Follows] at hfollows
            | literal cs => cases hfirst
            | quote cs => simp [LexState.Follows] at hfollows
        | some c =>
            rw [hlast] at hfollows apart
            exact LexState.advance_of_apart hfollows (apart c rfl d rfl) hfirst
      have hstart : LexState.between.advance d = LexState.start d := rfl
      simp only [lexFrom, hadvance, hstart] at hsecond ⊢
      simp [hsecond]

/-- Before a space, or any character that stands alone, every token is complete. -/
theorem append_lone (h : Lexes piece tokens) (hn : Lexes next more)
    (lone : next.toList.head?.all isLone = true) : Lexes (piece ++ next) (tokens ++ more) := by
  refine h.append hn fun c _ d hd => not_grows_right ?_ c
  rw [Option.mem_def.1 hd] at lone
  exact lone

theorem lone_append (h : Lexes piece tokens) (hn : Lexes next more)
    (lone : piece.toList.getLast?.all isLone = true) : Lexes (piece ++ next) (tokens ++ more) := by
  refine h.append hn fun c hc d _ => not_grows_left ?_ d
  rw [Option.mem_def.1 hc] at lone
  exact lone

theorem lexFrom_append (h : Lexes piece tokens) (lone : piece.toList.getLast?.all isLone = true)
    (rest : List Char) : (lexFrom .between (piece.toList ++ rest)).1 =
      tokens ++ (lexFrom .between rest).1 := by
  unfold Lexes tokens? at h
  obtain ⟨last, hlast, rfl⟩ := Option.map_eq_some_iff.1 h
  have hbetween : LexState.between.Follows none := trivial
  have hfollows := follows_lexFrom hbetween piece.toList
  rw [Option.or_none] at hfollows
  rw [TableRecords.lexFrom_append]
  generalize (lexFrom .between piece.toList).2 = state at *
  cases state with
  | between =>
      cases hlast
      simp
  | word cs =>
      obtain ⟨c, hc, hn⟩ := hfollows
      rw [Option.mem_def.1 hc] at lone
      simp [isLone, hn] at lone
  | literal cs => cases hlast
  | quote cs =>
      obtain ⟨c, hc, rfl⟩ := hfollows
      rw [Option.mem_def.1 hc] at lone
      simp [isLone] at lone

theorem around {between : String} {tokens' : List Token} (h : Lexes piece tokens)
    (hb : Lexes between tokens') (hn : Lexes next more) (lone : standsAlone between = true) :
    Lexes (piece ++ between ++ next) (tokens ++ tokens' ++ more) := by
  obtain ⟨hhead, hlast⟩ := Bool.and_eq_true_iff.1 lone
  cases hf : between.toList.head? with
  | none => simp [hf] at hhead
  | some c =>
      cases hl : between.toList.getLast? with
      | none => simp [hl] at hlast
      | some d =>
          rw [hf] at hhead
          rw [hl] at hlast
          refine (h.append_lone hb (by rw [hf]; exact hhead)).lone_append hn ?_
          rw [String.toList_append, List.getLast?_append, hl]
          exact hlast

theorem intercalate {separator : String} {between : List Token} (hb : Lexes separator between)
    (lone : standsAlone separator = true) {pieces : List String} {parts : List (List Token)}
    (h : List.Forall₂ Lexes pieces parts) :
    Lexes (separator.intercalate pieces) (between.intercalate parts) := by
  induction h with
  | nil => rfl
  | cons hfirst hrest ih =>
      cases hrest with
      | nil => simpa using hfirst
      | cons hsecond hrest =>
          rw [String.intercalate_cons_cons, List.intercalate_cons_cons]
          exact hfirst.around hb ih lone

end Lexes

theorem lexFrom_word {cs : List Char} (h : ∀ c ∈ cs, isNameChar c = true) (read : List Char) :
    lexFrom (.word read) cs = ([], .word (read ++ cs)) := by
  induction cs generalizing read with
  | nil => simp [lexFrom]
  | cons c cs ih =>
      have hc := h c List.mem_cons_self
      have hrest := ih (fun d hd => h d (List.mem_cons_of_mem _ hd)) (read ++ [c])
      simp [lexFrom, LexState.advance, hc, hrest]

theorem start_of_isNameChar {c : Char} (h : isNameChar c = true) :
    LexState.start c = ([], .word [c]) := by
  have hs : c ≠ ' ' := by
    rintro rfl
    exact absurd h (by decide)
  have hq : c ≠ '\'' := by
    rintro rfl
    exact absurd h (by decide)
  simp [LexState.start, hs, hq, h]

theorem lexes_word {s : String} (ne : s ≠ "") (h : ∀ c ∈ s.toList, isNameChar c = true) :
    Lexes s [.word s] := by
  unfold Lexes tokens?
  cases hs : s.toList with
  | nil => exact absurd (String.toList_eq_nil_iff.1 hs) ne
  | cons c cs =>
      rw [hs] at h
      have hstart := start_of_isNameChar (h c List.mem_cons_self)
      have hrest := lexFrom_word (fun d hd => h d (List.mem_cons_of_mem _ hd)) [c]
      have hword : String.ofList (c :: cs) = s := by rw [← hs, String.ofList_toList]
      simp [lexFrom, LexState.advance, hstart, hrest, LexState.finish, hword]

theorem Identifier.text_ne_empty (name : Identifier) : name.text ≠ "" := by
  intro h
  have hs := name.spelled
  rw [h] at hs
  exact absurd hs (by decide)

theorem Identifier.lexes (name : Identifier) : Lexes name.text [.word name.text] :=
  lexes_word name.text_ne_empty fun _ hc => name.isNameChar_of_mem hc

theorem lexes_toString (n : Nat) : Lexes (toString n) [.word (toString n)] := by
  have hdigits : AreDigits (toString n).toList := by
    rw [Nat.toString_eq_repr, Nat.repr_eq_ofList_toDigits, String.toList_ofList]
    exact areDigits_toDigits n
  refine lexes_word (fun h => hdigits.1 (by rw [h]; rfl)) fun c hc => ?_
  simp [isNameChar, Char.isAlphanum, hdigits.2 c hc]

/-- The lexer takes doubled quotes for quotes. -/
theorem lexFrom_doubleQuotes (cs read : List Char) :
    lexFrom (.literal read) (doubleQuotes cs) = ([], .literal (read ++ cs)) := by
  induction cs using doubleQuotes.induct generalizing read with
  | case1 => simp [doubleQuotes, lexFrom]
  | case2 cs ih => simp [doubleQuotes, lexFrom, LexState.advance, ih]
  | case3 c cs hc ih =>
      have hne : c ≠ '\'' := hc
      simp [doubleQuotes, lexFrom, LexState.advance, ih, hne]

theorem lexes_quoted (s : String) :
    Lexes ("'" ++ String.ofList (doubleQuotes s.toList) ++ "'") [.literal s] := by
  have hq : "'".toList = ['\''] := rfl
  unfold Lexes tokens?
  simp [String.toList_append, hq, lexFrom, lexFrom_append, LexState.advance, LexState.start,
    lexFrom_doubleQuotes, LexState.finish]

theorem doubleQuotes_of_notMem {cs : List Char} (h : '\'' ∉ cs) : doubleQuotes cs = cs := by
  induction cs using doubleQuotes.induct with
  | case1 => rfl
  | case2 cs ih => simp at h
  | case3 c cs hc ih =>
      have hcs : '\'' ∉ cs := fun hm => h (List.mem_cons_of_mem c hm)
      simp [doubleQuotes, ih hcs]

theorem lexes_plain {s : String} (h : '\'' ∉ s.toList) : Lexes ("'" ++ s ++ "'") [.literal s] := by
  have hq := lexes_quoted s
  rwa [doubleQuotes_of_notMem h, String.ofList_toList] at hq

theorem Identifier.quote_notMem (name : Identifier) : '\'' ∉ name.text.toList := by
  intro hm
  exact absurd (name.isNameChar_of_mem hm) (by decide)

def textTokens (s : String) : List Token :=
  if '\x00' ∈ s.toList then
    [.word "CAST", .mark '(', .word "X",
      .literal (String.ofList ((hexChars (utf8Bytes s)).map Char.toUpper)), .word "AS",
      .word "TEXT", .mark ')']
  else [.literal s]

theorem lexes_textLiteral (s : String) : Lexes (textLiteral s) (textTokens s) := by
  unfold textLiteral textTokens
  split
  · generalize hd : String.ofList ((hexChars (utf8Bytes s)).map Char.toUpper) = digits
    have hquote : '\'' ∉ digits.toList := by
      rw [← hd, String.toList_ofList]
      exact fun hm => ne_quote_of_mem_hexChars hm rfl
    have hopening : Lexes "CAST(X" [.word "CAST", .mark '(', .word "X"] := by decide
    have hclosing : Lexes " AS TEXT)" [.word "AS", .word "TEXT", .mark ')'] := by decide
    have hbytes := (hopening.append (lexes_plain hquote) (by
      intro c hc d hd
      simp at hc hd
      subst hc hd
      rfl)).append_lone hclosing rfl
    have htext : "CAST(X'" ++ digits ++ "' AS TEXT)" =
        "CAST(X" ++ ("'" ++ digits ++ "'") ++ " AS TEXT)" := by
      apply String.toList_injective
      simp
    rw [htext]
    exact hbytes
  · exact lexes_quoted s

/-! ## Parts of lists -/

def Token.depthAfter (depth : Nat) : Token → Nat
  | .mark '(' => depth + 1
  | .mark ')' => depth - 1
  | _ => depth

/-- The parts of a list and what follows it. Separators part them, and another token ends the list,
where no bracket is open. -/
def readParts (separator stop : Token) :
    Nat → List Token → List Token → Option (List (List Token) × List Token)
  | _, _, [] => none
  | depth, part, token :: rest =>
    if depth = 0 ∧ token = stop then some ([part], rest)
    else if depth = 0 ∧ token = separator then
      (readParts separator stop 0 [] rest).map fun found => (part :: found.1, found.2)
    else readParts separator stop (token.depthAfter depth) (part ++ [token]) rest

section Parts

variable {separator stop : Token}

/-- How deep in brackets tokens lead, if no list ends among them. -/
def depthAfter (separator stop : Token) : Nat → List Token → Option Nat
  | depth, [] => some depth
  | depth, token :: rest =>
    if depth = 0 ∧ (token = stop ∨ token = separator) then none
    else depthAfter separator stop (token.depthAfter depth) rest

def IsPart (separator stop : Token) (tokens : List Token) : Prop :=
  depthAfter separator stop 0 tokens = some 0

theorem depthAfter_append {depth deeper : Nat} {tokens : List Token}
    (h : depthAfter separator stop depth tokens = some deeper) (more : List Token) :
    depthAfter separator stop depth (tokens ++ more) = depthAfter separator stop deeper more := by
  induction tokens generalizing depth with
  | nil =>
      cases h
      rfl
  | cons token rest ih =>
      rw [depthAfter] at h
      rw [List.cons_append, depthAfter]
      split at h
      · cases h
      · rename_i hgo
        rw [if_neg hgo]
        exact ih h

theorem readParts_append {depth deeper : Nat} {tokens : List Token}
    (h : depthAfter separator stop depth tokens = some deeper) (part rest : List Token) :
    readParts separator stop depth part (tokens ++ rest) =
      readParts separator stop deeper (part ++ tokens) rest := by
  induction tokens generalizing depth part with
  | nil =>
      cases h
      simp
  | cons token tokens ih =>
      rw [depthAfter] at h
      split at h
      · cases h
      · rename_i hgo
        have hstop : ¬(depth = 0 ∧ token = stop) := fun hs => hgo ⟨hs.1, Or.inl hs.2⟩
        have hsep : ¬(depth = 0 ∧ token = separator) := fun hs => hgo ⟨hs.1, Or.inr hs.2⟩
        rw [List.cons_append, readParts, if_neg hstop, if_neg hsep, ih h, List.append_assoc]
        rfl

theorem readParts_separator (apart : separator ≠ stop) {part : List Token}
    (h : IsPart separator stop part) (rest : List Token) :
    readParts separator stop 0 [] (part ++ separator :: rest) =
      (readParts separator stop 0 [] rest).map fun found => (part :: found.1, found.2) := by
  rw [readParts_append h, readParts, if_neg (by simp [apart]), if_pos ⟨rfl, rfl⟩, List.nil_append]

theorem readParts_stop {part : List Token} (h : IsPart separator stop part) (rest : List Token) :
    readParts separator stop 0 [] (part ++ stop :: rest) = some ([part], rest) := by
  rw [readParts_append h, readParts, if_pos ⟨rfl, rfl⟩, List.nil_append]

/-- A list is read part by part. -/
theorem readParts_intercalate (apart : separator ≠ stop) {parts : List (List Token)}
    (ne : parts ≠ []) (h : ∀ part ∈ parts, IsPart separator stop part) (rest : List Token) :
    readParts separator stop 0 [] ([separator].intercalate parts ++ stop :: rest) =
      some (parts, rest) := by
  induction parts with
  | nil => exact absurd rfl ne
  | cons first parts ih =>
      have hfirst := h first List.mem_cons_self
      cases parts with
      | nil => rw [List.intercalate_singleton, readParts_stop hfirst]
      | cons second parts =>
          have hrest := ih (by simp) fun part hp => h part (List.mem_cons_of_mem first hp)
          rw [List.intercalate_cons_cons, List.append_assoc, List.append_assoc,
            List.singleton_append, readParts_separator apart hfirst, hrest]
          rfl

theorem readParts_terminated (apart : separator ≠ stop) {parts : List (List Token)}
    (h : ∀ part ∈ parts, IsPart separator stop part) (rest : List Token) :
    readParts separator stop 0 [] (parts.flatMap (· ++ [separator]) ++ stop :: rest) =
      some (parts ++ [[]], rest) := by
  induction parts with
  | nil =>
      have hempty : IsPart separator stop [] := rfl
      exact readParts_stop hempty rest
  | cons first parts ih =>
      have hrest := ih fun part hp => h part (List.mem_cons_of_mem first hp)
      rw [List.flatMap_cons, List.append_assoc, List.append_assoc, List.singleton_append,
        readParts_separator apart (h first List.mem_cons_self), hrest]
      rfl

end Parts

end TableRecords
