import Mathlib
import TableRecords.Text.Blank

/-! # Words

White space parts a text into words: runs of other characters that are as long as they can be.
-/

namespace TableRecords

/-- The white space that parts words, by code point: that of Unicode, and four separators. -/
def whiteSpace : List Nat :=
  [0x09, 0x0A, 0x0B, 0x0C, 0x0D, 0x1C, 0x1D, 0x1E, 0x1F, 0x20, 0x85, 0xA0, 0x1680, 0x2000, 0x2001,
    0x2002, 0x2003, 0x2004, 0x2005, 0x2006, 0x2007, 0x2008, 0x2009, 0x200A, 0x2028, 0x2029, 0x202F,
    0x205F, 0x3000]

def isWhite (c : Char) : Bool := whiteSpace.contains c.toNat

theorem isBlank_eq_isWhite : isBlank = isWhite := by
  funext c
  rw [Bool.eq_iff_iff]
  simp only [isBlank, isSpace, isWhite, whiteSpace, List.contains_iff_mem, Bool.or_eq_true,
    Bool.and_eq_true, decide_eq_true_eq, beq_iff_eq, List.mem_cons, List.not_mem_nil,
    or_false]
  constructor
  · intro h
    omega
  · intro h
    omega

/-- A text comes apart into words: before each stands nothing but white space, and it ends where
white space begins or the text does. -/
inductive SplitsInto : List Char → List (List Char) → Prop
  | blank {cs} (h : ∀ c ∈ cs, isWhite c = true) : SplitsInto cs []
  | word {gap word rest found} (hg : ∀ c ∈ gap, isWhite c = true) (hne : word ≠ [])
      (hw : ∀ c ∈ word, isWhite c = false) (hr : ∀ c ∈ rest.head?, isWhite c = true)
      (h : SplitsInto rest found) : SplitsInto (gap ++ (word ++ rest)) (word :: found)

theorem SplitsInto.cons {c : Char} {cs : List Char} {found : List (List Char)}
    (h : SplitsInto cs found) (hc : isWhite c = true) : SplitsInto (c :: cs) found := by
  cases h with
  | blank h => exact .blank (List.forall_mem_cons.2 ⟨hc, h⟩)
  | word hg hne hw hr h => exact .word (List.forall_mem_cons.2 ⟨hc, hg⟩) hne hw hr h

theorem SplitsInto.first {word rest : List Char} {found : List (List Char)} (hne : word ≠ [])
    (hw : ∀ c ∈ word, isWhite c = false) (hr : ∀ c ∈ rest.head?, isWhite c = true)
    (h : SplitsInto rest found) : SplitsInto (word ++ rest) (word :: found) := by
  rw [← List.nil_append (word ++ rest)]
  exact .word (List.forall_mem_nil _) hne hw hr h

theorem wordsFrom_cons_white {c : Char} (hc : isWhite c = true) (word cs : List Char) :
    wordsFrom word (c :: cs) =
      if word = [] then wordsFrom [] cs else word.reverse :: wordsFrom [] cs := by
  rw [← isBlank_eq_isWhite] at hc
  simp [wordsFrom, hc]

theorem wordsFrom_cons {c : Char} (hc : isWhite c = false) (word cs : List Char) :
    wordsFrom word (c :: cs) = wordsFrom (c :: word) cs := by
  rw [← isBlank_eq_isWhite] at hc
  simp [wordsFrom, hc]

theorem splitsInto_wordsFrom {word : List Char} (hw : ∀ c ∈ word, isWhite c = false)
    (cs : List Char) : SplitsInto (word.reverse ++ cs) (wordsFrom word cs) := by
  have hrun : ∀ c ∈ word.reverse, isWhite c = false := fun c hc => hw c (List.mem_reverse.1 hc)
  induction cs generalizing word with
  | nil =>
      by_cases hne : word = []
      · subst hne
        exact .blank (List.forall_mem_nil _)
      · have hwords : wordsFrom word [] = [word.reverse] := by simp [wordsFrom, hne]
        rw [hwords]
        exact .first (by simpa using hne) hrun (by simp) (.blank (List.forall_mem_nil _))
  | cons c cs ih =>
      cases hc : isWhite c with
      | false =>
          have hnext : ∀ d ∈ c :: word, isWhite d = false := List.forall_mem_cons.2 ⟨hc, hw⟩
          rw [wordsFrom_cons hc, List.append_cons, ← List.reverse_cons]
          exact ih hnext fun d hd => hnext d (List.mem_reverse.1 hd)
      | true =>
          have hrest : SplitsInto (c :: cs) (wordsFrom [] cs) :=
            (ih (List.forall_mem_nil _) (List.forall_mem_nil _)).cons hc
          rw [wordsFrom_cons_white hc]
          by_cases hne : word = []
          · rw [if_pos hne, hne]
            exact hrest
          · rw [if_neg hne]
            exact .first (by simpa using hne) hrun (by simpa using hc) hrest

theorem wordsFrom_gap {gap : List Char} (hg : ∀ c ∈ gap, isWhite c = true) (cs : List Char) :
    wordsFrom [] (gap ++ cs) = wordsFrom [] cs := by
  induction gap with
  | nil => rfl
  | cons c gap ih =>
      obtain ⟨hc, hrest⟩ := List.forall_mem_cons.1 hg
      rw [List.cons_append, wordsFrom_cons_white hc, if_pos rfl, ih hrest]

theorem wordsFrom_run {run : List Char} (hr : ∀ c ∈ run, isWhite c = false)
    (word cs : List Char) : wordsFrom word (run ++ cs) = wordsFrom (run.reverse ++ word) cs := by
  induction run generalizing word with
  | nil => rfl
  | cons c run ih =>
      obtain ⟨hc, hrest⟩ := List.forall_mem_cons.1 hr
      rw [List.cons_append, wordsFrom_cons hc, ih hrest, List.reverse_cons, List.append_assoc]
      rfl

/-- The words of a text are the only ones into which it comes apart. -/
theorem splitsInto_iff {cs : List Char} {found : List (List Char)} :
    SplitsInto cs found ↔ found = words cs := by
  constructor
  · intro h
    induction h with
    | @blank cs h => rw [words, ← List.append_nil cs, wordsFrom_gap h]; rfl
    | @word gap word rest found hg hne hw hr _ ih =>
        have hreverse : word.reverse ≠ [] := by simpa using hne
        rw [words, wordsFrom_gap hg, wordsFrom_run hw, List.append_nil]
        cases rest with
        | nil =>
            rw [ih]
            simp [words, wordsFrom, hne]
        | cons c rest =>
            have hc : isWhite c = true := hr c rfl
            rw [wordsFrom_cons_white hc, if_neg hreverse, List.reverse_reverse, ih, words,
              wordsFrom_cons_white hc, if_pos rfl]
  · rintro rfl
    exact splitsInto_wordsFrom (List.forall_mem_nil _) cs

theorem SplitsInto.eq_nil_iff {cs : List Char} {found : List (List Char)}
    (h : SplitsInto cs found) : found = [] ↔ ∀ c ∈ cs, isWhite c = true := by
  cases h with
  | blank h => exact iff_of_true rfl h
  | @word gap word rest found hg hne hw hr h =>
      refine iff_of_false (List.cons_ne_nil _ _) fun hall => ?_
      obtain ⟨c, hc⟩ := List.exists_mem_of_ne_nil word hne
      have hwhite := hall c (List.mem_append_right _ (List.mem_append_left _ hc))
      rw [hw c hc] at hwhite
      cases hwhite

/-- The words of a text are made of its characters, white space apart. -/
theorem SplitsInto.flatten_eq {cs : List Char} {found : List (List Char)}
    (h : SplitsInto cs found) : found.flatten = cs.filter (!isWhite ·) := by
  induction h with
  | blank h =>
      symm
      simpa using h
  | @word gap word rest found hg _ hw _ _ ih =>
      have hgap : gap.filter (!isWhite ·) = [] := by simpa using hg
      have hword : word.filter (!isWhite ·) = word := by simpa using hw
      rw [List.filter_append, List.filter_append, hgap, hword, List.flatten_cons, ih,
        List.nil_append]

theorem trimBoth_eq_nil_iff {p : Char → Bool} {cs : List Char} :
    trimBoth p cs = [] ↔ ∀ c ∈ cs, p c = true := by
  have hall : (∀ c ∈ cs, p c = true) ↔ cs.dropWhile p = [] := List.dropWhile_eq_nil_iff.symm
  rw [hall, trimBoth, List.reverse_eq_nil_iff, List.dropWhile_eq_nil_iff]
  cases hcs : cs.dropWhile p with
  | nil => simp
  | cons c rest =>
      -- the first character that is left is none that is trimmed
      have hne : cs.dropWhile p ≠ [] := by simp [hcs]
      have hfirst := List.head_dropWhile_not p hne
      simp only [hcs, List.head_cons] at hfirst
      simp [hfirst]

end TableRecords
