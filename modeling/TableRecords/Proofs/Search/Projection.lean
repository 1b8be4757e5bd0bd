import Mathlib
import TableRecords.Proofs.Search.Declaration
import TableRecords.Proofs.Table.Records

/-! # What searches select

A reader takes from the text of a statement what it selects: the columns of a table, and what
functions compute, with their operands and the names they are given. It reads the text of every
search.
-/

namespace TableRecords

/-- What a search selects: all columns of a source, or what a function gives under a name. -/
inductive Projected where
  | all (source : String)
  | computed (function : String) (operands : List (List Token)) (name : String)
deriving DecidableEq, Repr

def readNumber : List Token → Option Int
  | [.word s] => s.toNat?.map Int.ofNat
  | [.mark '-', .word s] => s.toNat?.map fun n => -(n : Int)
  | _ => none

def readProjected : List Token → Option Projected
  | [.word source, .mark '.', .mark '*'] => some (.all source)
  | .word function :: .mark '(' :: tokens => do
    match ← readParts (.mark ',') (.mark ')') 0 [] tokens with
    | (operands, [.word "AS", .word name]) => some (.computed function operands name)
    | _ => none
  | _ => none

/-- What a statement selects. What follows `FROM` is not looked at. -/
def readProjection (sql : String) : Option (List Projected) := do
  let tokens ← skip [.word "SELECT"] (lexFrom .between sql.toList).1
  let (parts, _) ← readParts (.mark ',') (.word "FROM") 0 [] tokens
  parts.mapM readProjected

def IsOperand (tokens : List Token) : Prop :=
  IsPart (.mark ',') (.mark ')') tokens ∧
    depthAfter (.mark ',') (.word "FROM") 1 tokens = some 1

namespace Projected

def name? : Projected → Option String
  | all _ => none
  | computed _ _ name => some name

def number? : Projected → Option Int
  | all _ => none
  | computed _ operands _ => operands[1]?.bind readNumber

def isCallOf (function : String) : Projected → Bool
  | all _ => false
  | computed f _ _ => f = function

def tokens : Projected → List Token
  | all source => [.word source, .mark '.', .mark '*']
  | computed function operands name =>
    .word function :: .mark '(' :: (commas operands ++ [.mark ')', .word "AS", .word name])

/-- Operands that can be told apart, and names that do not end the list. -/
def Readable : Projected → Prop
  | all source => source ≠ "FROM"
  | computed function operands name => function ≠ "FROM" ∧ name ≠ "FROM" ∧ operands ≠ [] ∧
      ∀ operand ∈ operands, IsOperand operand

theorem read_tokens {projected : Projected} (h : projected.Readable) :
    readProjected projected.tokens = some projected := by
  cases projected with
  | all source => rfl
  | computed function operands name =>
      obtain ⟨-, -, hne, hoperands⟩ := h
      have hparts := readParts_intercalate (by decide) hne (fun o ho => (hoperands o ho).1)
        [Token.word "AS", Token.word name]
      simp [tokens, readProjected, commas, hparts]

theorem isPart {projected : Projected} (h : projected.Readable) :
    IsPart (.mark ',') (.word "FROM") projected.tokens := by
  cases projected with
  | all source =>
      have hsource : source ≠ "FROM" := h
      simp [IsPart, tokens, depthAfter, Token.depthAfter, hsource]
  | computed function operands name =>
      obtain ⟨hfunction, hname, -, hoperands⟩ := h
      have hcommas : depthAfter (.mark ',') (.word "FROM") 1 (commas operands) = some 1 :=
        depthAfter_commas fun o ho => (hoperands o ho).2
      simp [IsPart, tokens, depthAfter, Token.depthAfter, depthAfter_append hcommas, hfunction,
        hname]

end Projected

/-- A list of what is selected is read from the front of a statement. -/
theorem readProjection_append {projection : List Projected} (ne : projection ≠ [])
    (readable : ∀ projected ∈ projection, projected.Readable) {pieces : List String}
    (h : List.Forall₂ (fun piece projected => Lexes piece (Projected.tokens projected)) pieces
      projection) (rest : String) :
    readProjection ("SELECT " ++ ", ".intercalate pieces ++ " FROM " ++ rest) =
      some projection := by
  have hselect : Lexes "SELECT " [.word "SELECT"] := by decide
  have hfrom : Lexes " FROM " [.word "FROM"] := by decide
  have hpieces : Lexes (", ".intercalate pieces) (commas (projection.map Projected.tokens)) :=
    Lexes.commas (List.forall₂_map_right_iff.2 h)
  have hopening := (hselect.lone_append hpieces (by decide)).append_lone hfrom (by decide)
  have hend : ("SELECT " ++ ", ".intercalate pieces ++ " FROM ").toList.getLast?.all isLone =
      true := by
    rw [String.toList_append, List.getLast?_append]
    rfl
  have htokens := hopening.lexFrom_append hend rest.toList
  rw [← String.toList_append] at htokens
  have hall : ∀ part ∈ projection.map Projected.tokens, IsPart (.mark ',') (.word "FROM") part := by
    intro part hp
    obtain ⟨projected, hm, rfl⟩ := List.mem_map.1 hp
    exact Projected.isPart (readable projected hm)
  have hparts := readParts_intercalate (by decide) (by simpa using ne) hall
    (lexFrom .between rest.toList).1
  have hread := mapM_tokens fun projected hm => Projected.read_tokens (readable projected hm)
  rw [readProjection, htokens]
  simp [skip_cons, commas, hparts, hread]

def numberTokens : Int → List Token
  | .ofNat n => [.word (toString n)]
  | .negSucc n => [.mark '-', .word (toString (n + 1))]

theorem lexes_number (n : Int) : Lexes (toString n) (numberTokens n) := by
  cases n with
  | ofNat n => exact lexes_toString n
  | negSucc n =>
      have hminus : Lexes "-" [.mark '-'] := by decide
      exact hminus.lone_append (lexes_toString (n + 1)) (by decide)

theorem toNat_toString (n : Nat) : (toString n).toNat? = some n := Nat.toNat?_repr n

theorem readNumber_tokens (n : Int) : readNumber (numberTokens n) = some n := by
  cases n with
  | ofNat n => simp [readNumber, numberTokens]
  | negSucc n =>
      simp only [readNumber, numberTokens, toNat_toString]
      rfl

theorem isOperand_name (s : String) : IsOperand (nameTokens s) :=
  ⟨(readName_tokens s).2, depthAfter_inside 0 (by simp [nameTokens, isBracket])⟩

theorem isOperand_number (n : Int) : IsOperand (numberTokens n) := by
  cases n with
  | ofNat n => exact isOperand_name (toString n)
  | negSucc n =>
      exact ⟨by simp [IsPart, numberTokens, depthAfter, Token.depthAfter],
        depthAfter_inside 0 (by simp [numberTokens, isBracket])⟩

theorem isOperand_text (s : String) : IsOperand (textTokens s) := by
  unfold textTokens
  split
  · constructor
    · simp [IsPart, depthAfter, Token.depthAfter]
    · simp [depthAfter, Token.depthAfter]
  · exact ⟨by simp [IsPart, depthAfter, Token.depthAfter],
      depthAfter_inside 0 (by simp [isBracket])⟩

theorem lexes_quoteText (s : String) : Lexes (quote (.text s)) (textTokens s) := lexes_textLiteral s

namespace SearchQuery

theorem lexes_computed {function name : String} {pieces : List String}
    {operands : List (List Token)} (hf : Lexes function [.word function])
    (hn : Lexes name [.word name]) (h : List.Forall₂ Lexes pieces operands) :
    Lexes (function ++ "(" ++ ", ".intercalate pieces ++ ") AS " ++ name)
      (Projected.computed function operands name).tokens := by
  have hopening : Lexes "(" [.mark '('] := by decide
  have hclosing : Lexes ") AS " [.mark ')', .word "AS"] := by decide
  have hall := (hf.around hopening (Lexes.commas h) (by decide)).around hclosing hn (by decide)
  simpa [Projected.tokens] using hall

variable (index : Identifier) (columns : List Identifier) (options : SearchOptions)

def rankProjected : Projected := .computed "bm25" [nameTokens index.text] rankColumn

def snippetProjected (position : Int) : Projected :=
  .computed "snippet" [nameTokens index.text, numberTokens position, textTokens options.openMark,
    textTokens options.closeMark, textTokens options.ellipsis,
    numberTokens options.snippetTokens.val] snippetColumn

def highlightProjected (position : Nat) (column : Identifier) : Projected :=
  .computed "highlight" [nameTokens index.text, numberTokens position,
    textTokens options.openMark, textTokens options.closeMark] (highlightMark ++ column.text)

def projected (snippet : Option Int) : List Projected :=
  [.all "base", rankProjected index] ++ (snippet.map (snippetProjected index options)).toList ++
    if options.highlight then
      columns.mapIdx fun position column => highlightProjected index options position column
    else []

variable {index columns options}

theorem lexes_rankTerm (index : Identifier) :
    Lexes (rankTerm index ++ " AS " ++ rankColumn) (rankProjected index).tokens := by
  have hfunction : Lexes "bm25" [.word "bm25"] := by decide
  have hname : Lexes rankColumn [.word rankColumn] := by decide
  have hall := lexes_computed hfunction hname (.cons index.lexes .nil)
  have hopening : "bm25(" = "bm25" ++ "(" := by decide
  have hclosing : ") AS " = ")" ++ " AS " := by decide
  have hassoc : ∀ f o a c s n : String,
      f ++ o ++ a ++ (c ++ s) ++ n = f ++ o ++ a ++ c ++ s ++ n := by
    intros
    simp only [String.append_assoc]
  rewrite [String.intercalate_singleton, hclosing, hassoc] at hall
  unfold rankTerm
  rewrite [hopening]
  exact hall

theorem lexes_snippetTerm (index : Identifier) (options : SearchOptions) (position : Int) :
    Lexes (snippetTerm index options position)
      (snippetProjected index options position).tokens := by
  have hfunction : Lexes "snippet" [.word "snippet"] := by decide
  have hname : Lexes snippetColumn [.word snippetColumn] := by decide
  have hall := lexes_computed hfunction hname (.cons index.lexes (.cons (lexes_number position)
    (.cons (lexes_quoteText options.openMark) (.cons (lexes_quoteText options.closeMark)
      (.cons (lexes_quoteText options.ellipsis)
        (.cons (lexes_number options.snippetTokens.val) .nil))))))
  have hopening : "snippet(" = "snippet" ++ "(" := by decide
  have hassoc : ∀ f o a b c d e g s t n : String,
      f ++ o ++ s.intercalate [a, b, c, d, e, g] ++ t ++ n =
        f ++ o ++ a ++ s ++ b ++ s ++ c ++ s ++ d ++ s ++ e ++ s ++ g ++ t ++ n := by
    intros
    simp only [String.intercalate_cons_cons, String.intercalate_singleton, String.append_assoc]
  rewrite [hassoc] at hall
  unfold snippetTerm
  rewrite [hopening]
  exact hall

theorem lexes_highlightName (column : Identifier) :
    Lexes (highlightMark ++ column.text) [.word (highlightMark ++ column.text)] := by
  refine lexes_word (fun h => ?_) fun c hc => ?_
  · exact column.text_ne_empty (String.append_eq_empty_iff.1 h).2
  · rw [String.toList_append, List.mem_append] at hc
    rcases hc with hc | hc
    · have hmark : highlightMark.toList.all isNameChar = true := by decide
      exact List.all_eq_true.1 hmark c hc
    · exact column.isNameChar_of_mem hc

theorem lexes_highlightTerm (index : Identifier) (options : SearchOptions) (position : Nat)
    (column : Identifier) : Lexes (highlightTerm index options position column)
      (highlightProjected index options position column).tokens := by
  have hfunction : Lexes "highlight" [.word "highlight"] := by decide
  have hall := lexes_computed hfunction (lexes_highlightName column) (.cons index.lexes
    (.cons (lexes_toString position) (.cons (lexes_quoteText options.openMark)
      (.cons (lexes_quoteText options.closeMark) .nil))))
  have hopening : "highlight(" = "highlight" ++ "(" := by decide
  have hassoc : ∀ f o a b c d s t m n : String,
      f ++ o ++ s.intercalate [a, b, c, d] ++ t ++ (m ++ n) =
        f ++ o ++ a ++ s ++ b ++ s ++ c ++ s ++ d ++ t ++ m ++ n := by
    intros
    simp only [String.intercalate_cons_cons, String.intercalate_singleton, String.append_assoc]
  rewrite [hassoc] at hall
  unfold highlightTerm
  rewrite [hopening]
  exact hall

theorem lexes_projection (index : Identifier) (columns : List Identifier) (options : SearchOptions)
    (snippet : Option Int) : List.Forall₂
      (fun piece projected => Lexes piece (Projected.tokens projected))
      (projection index columns options snippet) (projected index columns options snippet) := by
  have hbase : Lexes "base.*" (Projected.all "base").tokens := by decide
  have hfirst : List.Forall₂ (fun piece projected => Lexes piece (Projected.tokens projected))
      ["base.*", rankTerm index ++ " AS " ++ rankColumn] [.all "base", rankProjected index] :=
    .cons hbase (.cons (lexes_rankTerm index) .nil)
  refine List.rel_append (List.rel_append hfirst ?_) ?_
  · cases snippet with
    | none => exact .nil
    | some position => exact .cons (lexes_snippetTerm index options position) .nil
  · split
    · refine List.forall₂_iff_get.2 ⟨by simp, fun i hi hj => ?_⟩
      simpa using lexes_highlightTerm index options i _
    · exact .nil

theorem highlightName_ne (column : Identifier) : highlightMark ++ column.text ≠ "FROM" := by
  intro h
  have hhead := congrArg (fun s => s.toList.head?) h
  rw [String.toList_append] at hhead
  exact absurd hhead (by simp [highlightMark, computedMark])

theorem readable_projected (index : Identifier) (columns : List Identifier)
    (options : SearchOptions) (snippet : Option Int) :
    ∀ item ∈ projected index columns options snippet, item.Readable := by
  intro item hm
  rcases List.mem_append.1 hm with hm | hm
  · rcases List.mem_append.1 hm with hm | hm
    · rcases List.mem_pair.1 hm with rfl | rfl
      · exact (by decide : "base" ≠ "FROM")
      · exact ⟨by decide, by decide, by simp, by simpa using isOperand_name index.text⟩
    · rw [Option.mem_toList, Option.map_eq_some_iff] at hm
      obtain ⟨position, -, rfl⟩ := hm
      refine ⟨by decide, by decide, by simp, ?_⟩
      simp [isOperand_name, isOperand_number, isOperand_text]
  · split at hm
    · obtain ⟨position, hp, rfl⟩ := List.mem_mapIdx.1 hm
      refine ⟨by decide, highlightName_ne _, by simp, ?_⟩
      simp [isOperand_name, isOperand_number, isOperand_text]
    · cases hm

theorem text_projection (table : Identifier) (columns : List Identifier) (query : String)
    (options : SearchOptions) (snippet : Option Int) (conditions : List Condition) :
    ∃ rest, text table columns query options snippet conditions = "SELECT " ++
      ", ".intercalate (projection (SearchIndex.name table) columns options snippet) ++
        " FROM " ++ rest := by
  have hassoc : ∀ s p f i j t b k q m e r o w l : String,
      s ++ p ++ f ++ i ++ j ++ t ++ b ++ k ++ q ++ i ++ m ++ i ++ e ++ r ++ o ++ w ++ l =
        s ++ p ++ f ++ (i ++ j ++ t ++ b ++ k ++ q ++ i ++ m ++ i ++ e ++ r ++ o ++ w ++ l) := by
    intros
    simp only [String.append_assoc]
  unfold text
  exact ⟨_, hassoc _ _ _ _ _ _ _ _ _ _ _ _ _ _ _⟩

/-- The projection of a search is read from its text. -/
theorem readProjection_text (table : Identifier) (columns : List Identifier) (query : String)
    (options : SearchOptions) (snippet : Option Int) (conditions : List Condition) :
    readProjection (text table columns query options snippet conditions) =
      some (projected (SearchIndex.name table) columns options snippet) := by
  obtain ⟨rest, htext⟩ := text_projection table columns query options snippet conditions
  rewrite [htext]
  exact readProjection_append (List.cons_ne_nil _ _) (readable_projected _ columns options snippet)
    (lexes_projection _ columns options snippet) rest

end SearchQuery

end TableRecords
