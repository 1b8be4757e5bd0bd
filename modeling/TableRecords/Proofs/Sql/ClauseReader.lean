import Mathlib
import TableRecords.Proofs.Outcome
import TableRecords.Proofs.Sql.LiteralReader
import TableRecords.Proofs.Sql.Words
import TableRecords.Sql.Statement

/-! # Reading clauses

A reader of clauses takes one fragment after the other: a column, an operator and a literal, with
one space between them, and `AND` before the next. It needs no more than the text. It takes from
every clause the conditions that the clause was built from, so the text leaves no doubt about them.
-/

namespace TableRecords

structure Fragment where
  column : String
  operator : String
  literal : String
deriving DecidableEq, Repr

def conjunction : List Char := [' ', 'A', 'N', 'D', ' ']

/-- An operator, of two words if the first two words make one. -/
def readOperator : Reader := fun cs =>
  let (first, afterFirst) := cs.span (· != ' ')
  let (second, afterSecond) := afterFirst.tail.span (· != ' ')
  if isOperator (first ++ ' ' :: second) then some (first ++ ' ' :: second, afterSecond)
  else if isOperator first then some (first, afterFirst)
  else none

def readFragment (cs : List Char) : Option (Fragment × List Char) := do
  let (column, cs) := cs.span (· != ' ')
  guard (spellsIdentifier column)
  let (operator, cs) ← readOperator cs.tail
  let (literal, cs) ← readLiteral cs.tail
  pure (⟨String.ofList column, String.ofList operator, String.ofList literal⟩, cs)

def readFragments : Nat → List Char → Option (List Fragment)
  | 0, _ => none
  | fuel + 1, cs => do
    let (fragment, cs) ← readFragment cs
    if cs.isEmpty then pure [fragment]
    else
      let cs ← cs.dropPrefix? conjunction
      let fragments ← readFragments fuel cs
      pure (fragment :: fragments)

/-- The fragments of a clause; each has at least one character. -/
def readClause (clause : String) : Option (List Fragment) :=
  let cs := clause.toList
  if cs.isEmpty then some [] else readFragments cs.length cs

theorem not_second_of_head {c : Char} (hc : c.toNat < 97) (hs : c ∉ [' ', 'L', 'N'])
    (cs : List Char) : upperChars ((c :: cs).span (· != ' ')).1 ∉ secondWords := by
  simp only [List.mem_cons, List.not_mem_nil, or_false, not_or] at hs
  obtain ⟨hspace, hL, hN⟩ := hs
  rw [List.span_eq_takeWhile_dropWhile, List.takeWhile_cons_of_pos (by simpa using hspace)]
  simp [upperChars, upperChar_of_lt hc, secondWords, hL, hN]

theorem IsLiteral.not_second {cs : List Char} (h : IsLiteral cs) {rest : List Char}
    (boundary : ∀ c ∈ rest.head?, c = ' ') :
    upperChars ((cs ++ rest).span (· != ' ')).1 ∉ secondWords := by
  cases h with
  | null =>
      have hspan : (nullWord ++ rest).span (· != ' ') = (nullWord, rest) :=
        span_append (by simp [nullWord]) (fun c hc => by simpa using boundary c hc)
      have hnull : upperChars nullWord ∉ secondWords := by decide +kernel
      rw [hspan]
      exact hnull
  | number hn =>
      obtain ⟨c, word, rfl, hc⟩ := hn.head
      have hlt : c.toNat < 97 := by
        rcases hc with hc | rfl
        · simp only [Char.isDigit, Bool.and_eq_true, decide_eq_true_eq, ge_iff_le,
            UInt32.le_iff_toNat_le] at hc
          exact lt_of_le_of_lt hc.2 (by decide)
        · decide
      have hs : c ∉ [' ', 'L', 'N'] := by
        intro hm
        simp only [List.mem_cons, List.not_mem_nil, or_false] at hm
        rcases hm with rfl | rfl | rfl <;> simp at hc
      exact not_second_of_head hlt hs _
  | quoted cs => exact not_second_of_head (by decide) (by decide) _
  | bytes bytes => exact not_second_of_head (by decide) (by decide) _

theorem isOperator_second {first second : List Char} (hf : ' ' ∉ first)
    (hs : upperChars second ∉ secondWords) : isOperator (first ++ ' ' :: second) = false :=
  Bool.eq_false_iff.2 fun h => hs (upperChars_second hf h)

/-- An operator is read whole before a space and a literal. -/
theorem Operator.read (operator : Operator) {cs rest : List Char} (h : IsLiteral cs)
    (boundary : ∀ c ∈ rest.head?, c = ' ') :
    readOperator (operator.text.toList ++ ' ' :: (cs ++ rest)) =
      some (operator.text.toList, ' ' :: (cs ++ rest)) := by
  have hop := operator.isOperator_text
  rcases operator.words with hone | ⟨first, second, ht, hf, hs⟩
  · have hspan := span_space hone (cs ++ rest)
    -- `IS` is not read on into what follows: no literal begins with `NOT` or `LIKE`
    have hpair := isOperator_second hone (h.not_second boundary)
    simp only [readOperator, hspan, List.tail_cons, hpair, hop, if_true]
    rfl
  · rw [ht] at hop ⊢
    have hfirst := span_space hf (second ++ ' ' :: (cs ++ rest))
    have hsecond := span_space hs (cs ++ rest)
    simp only [readOperator, List.append_assoc, List.cons_append, hfirst, List.tail_cons, hsecond,
      hop, if_true]

namespace Condition

def fragment (condition : Condition) : Fragment :=
  ⟨condition.column.text, condition.operator.text, quote condition.value⟩

theorem toList_text (condition : Condition) :
    condition.text.toList = condition.column.text.toList ++ ' ' ::
      (condition.operator.text.toList ++ ' ' :: (quote condition.value).toList) := by
  have hs : " ".toList = [' '] := rfl
  simp [text, String.toList_append, hs]

/-- A condition is read whole from a clause in which a space follows it, or nothing. -/
theorem read_text (condition : Condition) {rest : List Char}
    (boundary : ∀ c ∈ rest.head?, c = ' ') :
    readFragment (condition.text.toList ++ rest) = some (condition.fragment, rest) := by
  have hliteral := isLiteral_quote condition.value
  have hcolumn := span_space condition.column.space_notMem
    (condition.operator.text.toList ++ ' ' :: ((quote condition.value).toList ++ rest))
  have hoperator := condition.operator.read hliteral boundary
  simp only [readFragment, toList_text, List.append_assoc, List.cons_append, hcolumn,
    condition.column.spelled, guard_true, Option.bind_eq_bind, List.tail_cons, hoperator,
    hliteral.read boundary, Option.bind_some, String.ofList_toList, Option.pure_def]
  rfl

/-! ## Reading a clause -/

theorem toList_joined_cons (first second : Condition) (rest : List Condition) :
    (joined (first :: second :: rest)).toList =
      first.text.toList ++ (conjunction ++ (joined (second :: rest)).toList) := by
  have hc : " AND ".toList = conjunction := rfl
  simp only [joined, List.map_cons, String.intercalate_cons_cons, String.toList_append, hc,
    List.append_assoc]

theorem joined_ne_empty (first : Condition) (rest : List Condition) :
    (joined (first :: rest)).toList ≠ [] := by
  cases rest with
  | nil => simp [joined, toList_text]
  | cons second rest => simp [toList_joined_cons, toList_text]

theorem length_lt_joined (first : Condition) (rest : List Condition) :
    rest.length < (joined (first :: rest)).toList.length := by
  induction rest generalizing first with
  | nil => exact List.length_pos_of_ne_nil (joined_ne_empty first [])
  | cons second rest ih =>
      have hrest := ih second
      rw [toList_joined_cons, List.length_append, List.length_append, List.length_cons]
      have hc : conjunction.length = 5 := rfl
      omega

theorem readFragments_joined (first : Condition) (rest : List Condition) {fuel : Nat}
    (enough : rest.length < fuel) :
    readFragments fuel (joined (first :: rest)).toList = some ((first :: rest).map fragment) := by
  induction rest generalizing first fuel with
  | nil =>
      obtain ⟨fuel, rfl⟩ := Nat.exists_eq_succ_of_ne_zero (by omega : fuel ≠ 0)
      have hread : readFragment (first.text.toList ++ []) = some (first.fragment, []) :=
        first.read_text (by simp)
      rw [List.append_nil] at hread
      simp [joined, readFragments, hread]
  | cons second rest ih =>
      obtain ⟨fuel, rfl⟩ := Nat.exists_eq_succ_of_ne_zero (by omega : fuel ≠ 0)
      have hread : readFragment
          (first.text.toList ++ (conjunction ++ (joined (second :: rest)).toList)) =
            some (first.fragment, conjunction ++ (joined (second :: rest)).toList) :=
        first.read_text (by simp [conjunction])
      have hne : (conjunction ++ (joined (second :: rest)).toList).isEmpty = false := rfl
      have hless : rest.length < fuel := by simpa using enough
      have hrest := ih second hless
      simp only [toList_joined_cons, readFragments, hread, Option.bind_eq_bind, Option.bind_some,
        hne, Bool.false_eq_true, if_false, List.dropPrefix?_append_of_beq _ (BEq.rfl), hrest]
      rfl

theorem readFragments_unfinished (first : Condition) (rest : List Condition) {fuel : Nat}
    {remainder : List Char} (space : remainder.head? = some ' ')
    (stops : remainder.dropPrefix? conjunction = none) :
    readFragments fuel ((joined (first :: rest)).toList ++ remainder) = none := by
  induction rest generalizing first fuel with
  | nil =>
      have hread : readFragment (first.text.toList ++ remainder) =
          some (first.fragment, remainder) := first.read_text (by simp [space])
      have hne : remainder ≠ [] := by
        rintro rfl
        simp at space
      cases fuel with
      | zero => rfl
      | succ fuel => simp [joined, readFragments, hread, hne, stops]
  | cons second rest ih =>
      cases fuel with
      | zero => rfl
      | succ fuel =>
          have hread : readFragment (first.text.toList ++
              (conjunction ++ ((joined (second :: rest)).toList ++ remainder))) =
                some (first.fragment,
                  conjunction ++ ((joined (second :: rest)).toList ++ remainder)) :=
            first.read_text (by simp [conjunction])
          have hne : (conjunction ++ ((joined (second :: rest)).toList ++ remainder)).isEmpty =
              false := rfl
          simp only [toList_joined_cons, List.append_assoc, readFragments, hread,
            Option.bind_eq_bind, Option.bind_some, hne, Bool.false_eq_true, if_false,
            List.dropPrefix?_append_of_beq _ (BEq.rfl), ih second]
          rfl

theorem readClause_joined (conditions : List Condition) :
    readClause (joined conditions) = some (conditions.map fragment) := by
  cases conditions with
  | nil => rfl
  | cons first rest =>
      have hne : (joined (first :: rest)).toList.isEmpty = false :=
        List.isEmpty_eq_false_iff.2 (joined_ne_empty first rest)
      have hread := readFragments_joined first rest (length_lt_joined first rest)
      simp only [readClause, hne, Bool.false_eq_true, if_false, hread]

end Condition

end TableRecords
