import Mathlib
import TableRecords.Proofs.Sql.LiteralReader
import TableRecords.Proofs.Sql.Words
import TableRecords.Proofs.Sql.Scanner

/-! # The pieces of statements

Names, numbers and literals may stand anywhere in a statement: whatever text a caller gives is
inside of a literal, or it has passed a check that leaves it no character to do harm with.
-/

namespace TableRecords

def marks : List Char := ['\'', ';', '"', '\x60', '[', ']', '/', '-']

theorem toggle_of_unquoted {cs : List Char} (h : ∀ c ∈ cs, c ≠ '\'') :
    toggle false cs = (cs, false) := by
  induction cs with
  | nil => rfl
  | cons c cs ih =>
      rw [toggle_outside (h c (by simp)), ih fun d hd => h d (by simp [hd])]

theorem harmless_of_plain {cs : List Char} (h : ∀ c ∈ cs, c ∉ marks) : Harmless cs where
  allowed c hc hm := h c hc (by simp only [marks, List.mem_cons] at hm ⊢; tauto)
  apart := by
    refine (List.isChain_iff_forall_rel_of_append_cons_cons).2 ?_
    rintro a b before after rfl ⟨rfl, -⟩
    exact h '-' (by simp) (by decide)
  ending he := h '-' (List.mem_of_getLast? he) (by decide)

theorem inert_of_plain {piece : String} (h : ∀ c ∈ piece.toList, c ∉ marks) : Inert piece := by
  have ht : toggle false piece.toList = (piece.toList, false) :=
    toggle_of_unquoted fun c hc he => h c hc (by simp [marks, he])
  exact ⟨by rw [ht], by rw [ht]; exact harmless_of_plain h⟩

theorem notMem_marks_of_isNameChar {c : Char} (h : isNameChar c = true) : c ∉ marks := by
  intro hm
  simp only [marks, List.mem_cons, List.not_mem_nil, or_false] at hm
  rcases hm with rfl | rfl | rfl | rfl | rfl | rfl | rfl | rfl <;> revert h <;> decide

theorem Identifier.inert (name : Identifier) : Inert name.text :=
  inert_of_plain fun _ hc => notMem_marks_of_isNameChar (name.isNameChar_of_mem hc)

theorem notMem_marks_of_isDigit {c : Char} (h : c.isDigit = true) : c ∉ marks := by
  refine notMem_marks_of_isNameChar ?_
  simp [isNameChar, Char.isAlphanum, h]

theorem Harmless.minus {c : Char} {cs : List Char} (h : Harmless (c :: cs)) (hc : c ≠ '-') :
    Harmless ('-' :: c :: cs) where
  allowed d hd hm := by
    rcases List.mem_cons.1 hd with rfl | hd
    · revert hm
      decide
    · exact h.allowed d hd hm
  apart := List.isChain_cons_cons.2 ⟨fun hm => hc hm.2, h.apart⟩
  ending := by
    rw [List.getLast?_cons_cons]
    exact h.ending

theorem AreDigits.harmless_minus {cs : List Char} (h : AreDigits cs) : Harmless ('-' :: cs) := by
  obtain ⟨c, ds, rfl⟩ := List.exists_cons_of_ne_nil h.1
  refine (harmless_of_plain fun d hd => notMem_marks_of_isDigit (h.2 d hd)).minus ?_
  rintro rfl
  simpa using h.2 '-' (by simp)

theorem Numeral.harmless (n : Numeral) : Harmless n.chars := by
  have hwhole : Harmless n.whole :=
    harmless_of_plain fun c hc => notMem_marks_of_isDigit (n.whole_digits.2 c hc)
  have hpointed : Harmless n.pointed := by
    unfold Numeral.pointed
    split
    · decide
    · refine harmless_of_plain fun c hc => ?_
      rcases List.mem_cons.1 hc with rfl | hc
      · decide
      · exact notMem_marks_of_isDigit (n.fraction_digits c hc)
  have hmarked : Harmless n.marked := by
    unfold Numeral.marked
    split
    · decide
    · rename_i hne
      have hdigits : Harmless n.exponent :=
        harmless_of_plain fun c hc => notMem_marks_of_isDigit (n.exponent_digits c hc)
      match n.sign with
      | none => exact (by decide : Harmless ['e']).append hdigits
      | some false => exact (by decide : Harmless ['e', '+']).append hdigits
      | some true =>
          exact (by decide : Harmless ['e']).append
            (AreDigits.harmless_minus ⟨hne, n.exponent_digits⟩)
  exact hwhole.append (hpointed.append hmarked)

theorem IsNumber.harmless {cs : List Char} (h : IsNumber cs) : Harmless cs := by
  obtain ⟨negative, n, rfl⟩ := h
  cases negative with
  | false => exact n.harmless
  | true =>
      obtain ⟨d, rest, hc, hd⟩ := n.chars_eq_cons
      have hminus : d ≠ '-' := by rintro rfl; simp at hd
      have hn := n.harmless
      rw [if_pos rfl, List.singleton_append, hc]
      rw [hc] at hn
      exact hn.minus hminus

theorem IsNumber.toggle {cs : List Char} (h : IsNumber cs) : toggle false cs = (cs, false) :=
  toggle_of_unquoted fun c hc => by
    rintro rfl
    simpa [isNumberChar] using h.isNumberChar_of_mem hc

theorem inert_toString (n : Int) : Inert (toString n) := by
  have hn := isNumber_toString n
  exact ⟨by rw [hn.toggle], by rw [hn.toggle]; exact hn.harmless⟩

theorem toggle_doubleQuotes (cs rest : List Char) :
    toggle true (doubleQuotes cs ++ rest) = toggle true rest := by
  induction cs using doubleQuotes.induct with
  | case1 => rfl
  | case2 cs ih => simp [doubleQuotes, toggle_quote, ih]
  | case3 c cs hc ih => simp [doubleQuotes, toggle_inside hc, ih]

theorem toggle_of_inside {cs : List Char} (h : ∀ c ∈ cs, c ≠ '\'') (rest : List Char) :
    toggle true (cs ++ rest) = toggle true rest := by
  induction cs with
  | nil => rfl
  | cons c cs ih =>
      rw [List.cons_append, toggle_inside (h c (by simp)), ih fun d hd => h d (by simp [hd])]

theorem IsLiteral.toggle {cs : List Char} (h : IsLiteral cs) :
    (toggle false cs).2 = false ∧ Harmless (toggle false cs).1 := by
  cases h with
  | null => decide
  | number hn =>
      rw [hn.toggle]
      exact ⟨rfl, hn.harmless⟩
  | quoted cs =>
      rw [quotedChars, toggle_quote, Bool.not_false, toggle_doubleQuotes]
      decide
  | bytes bytes =>
      rw [bytesChars, toggle_append]
      change (TableRecords.toggle true _).2 = false ∧ Harmless (_ ++ (TableRecords.toggle true _).1)
      rw [toggle_of_inside fun c hc => ne_quote_of_mem_hexChars hc]
      decide

theorem inert_quote (v : Value) : Inert (quote v) :=
  ⟨(isLiteral_quote v).toggle.1, (isLiteral_quote v).toggle.2⟩

/-- Text that is escaped stays inside of a literal. -/
theorem toggle_escapeText (v : Value) : toggle true (escapeText v).toList = ([], true) := by
  have hd := toggle_doubleQuotes v.toText.toList []
  rw [List.append_nil] at hd
  rw [escapeText, String.toList_ofList, hd]
  rfl

theorem passes_escapeText (v : Value) : Passes true true (escapeText v) :=
  ⟨by rw [toggle_escapeText], by rw [toggle_escapeText]; decide⟩

end TableRecords
