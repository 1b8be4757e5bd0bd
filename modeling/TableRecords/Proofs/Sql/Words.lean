import Mathlib
import TableRecords.Sql.Identifier
import TableRecords.Sql.Operator
import TableRecords.Proofs.Number.Numeral
import TableRecords.Proofs.Outcome

/-! # The text of names and operators

A name is made of name characters. An operator is kept in the letter case it was given in, so what
is known of its text is known through its upper case form. No other character has a space in its
upper case form, so an operator has as many words as the listed one it stands for.
-/

namespace TableRecords

theorem append_ne_append {first second : String} (n : Nat)
    (h : n ≤ first.toList.length ∧ n ≤ second.toList.length ∧
      first.toList.take n ≠ second.toList.take n) (s t : String) : first ++ s ≠ second ++ t := by
  intro heq
  have htake := congrArg (List.take n ∘ String.toList) heq
  simp only [Function.comp, String.toList_append, List.take_append_of_le_length h.1,
    List.take_append_of_le_length h.2.1] at htake
  exact h.2.2 htake

theorem Identifier.isNameChar_of_mem (name : Identifier) {c : Char} (hc : c ∈ name.text.toList) :
    isNameChar c = true := by
  have hs := name.spelled
  cases ht : name.text.toList with
  | nil => simp [ht] at hc
  | cons d ds =>
      rw [ht] at hs hc
      simp only [spellsIdentifier, Bool.and_eq_true, List.all_eq_true] at hs
      rcases List.mem_cons.1 hc with rfl | hc
      · have hstart := hs.1
        simp only [isNameStart, isNameChar, Char.isAlphanum, Bool.or_eq_true] at hstart ⊢
        tauto
      · exact hs.2 c hc

theorem Identifier.space_notMem (name : Identifier) : ' ' ∉ name.text.toList := by
  intro hm
  simpa [isNameChar] using name.isNameChar_of_mem hm

theorem Identifier.ofValue_eq_ok {context : String} {v : Value} {name : Identifier} :
    Identifier.ofValue context v = .ok name ↔ v = .text name.text := by
  constructor
  · intro h
    unfold Identifier.ofValue at h
    split at h
    · split at h
      · rename_i hn
        cases h
        unfold Identifier.ofText? at hn
        split at hn
        · cases hn
          rfl
        · cases hn
      · cases h
    · cases h
  · rintro rfl
    simp [Identifier.ofValue, Identifier.ofText?, name.spelled]

theorem Identifier.ofValue_eq_error {context : String} {v : Value} {fault : Fault} :
    Identifier.ofValue context v = .error fault ↔
      (∀ name : Identifier, v ≠ .text name.text) ∧ fault = .invalidIdentifier v context := by
  have hfault : ∀ other, Identifier.ofValue context v = .error other →
      other = .invalidIdentifier v context := by
    intro other h
    unfold Identifier.ofValue at h
    split at h
    · split at h <;> cases h
      rfl
    · cases h
      rfl
  constructor
  · intro h
    refine ⟨fun name hv => ?_, hfault fault h⟩
    rw [Identifier.ofValue_eq_ok.2 hv] at h
    cases h
  · rintro ⟨hv, rfl⟩
    cases h : Identifier.ofValue context v with
    | ok name => exact absurd (Identifier.ofValue_eq_ok.1 h) (hv name)
    | error other => rw [hfault other h]

theorem Identifier.ofValues_eq_ok {context : String} {vs : List Value} {names : List Identifier} :
    Identifier.ofValues context vs = .ok names ↔ vs = names.map Identifier.toValue := by
  rw [Identifier.ofValues, Outcome.mapM_eq_ok]
  constructor
  · intro h
    induction h with
    | nil => rfl
    | cons hfirst _ ih => rw [List.map_cons, ← ih, Identifier.ofValue_eq_ok.1 hfirst, toValue]
  · rintro rfl
    rw [List.forall₂_map_left_iff, List.forall₂_same]
    exact fun name _ => Identifier.ofValue_eq_ok.2 rfl

theorem Identifier.toValue_injective {a b : Identifier} (h : a.toValue = b.toValue) : a = b := by
  cases a
  cases b
  cases h
  rfl

theorem expansions_beyond : ∀ e ∈ upperExpansions, 97 ≤ e.1 := by decide

theorem runs_beyond : ∀ r ∈ upperRuns, 97 ≤ r.1 := by decide +kernel

theorem upperChar_of_lt {c : Char} (h : c.toNat < 97) : upperChar c = [c] := by
  unfold upperChar
  simp only
  split
  · rename_i code codes hf
    have hcode := List.find?_some hf
    have hbeyond := expansions_beyond _ (List.mem_of_find?_eq_some hf)
    simp only [beq_iff_eq] at hcode hbeyond
    omega
  · split
    · rename_i first last step distance hf
      have hrange := List.find?_some hf
      have hbeyond := runs_beyond _ (List.mem_of_find?_eq_some hf)
      simp only [Bool.and_eq_true, decide_eq_true_eq] at hrange hbeyond
      omega
    · rfl

theorem ofNat_eq_space {n : Nat} (h : Char.ofNat n = ' ') : n = 32 := by
  have ht : (Char.ofNat n).toNat = 32 := by rw [h]; rfl
  rw [Char.toNat_ofNat] at ht
  split at ht
  · exact ht
  · omega

theorem space_not_expanded : ∀ e ∈ upperExpansions, ∀ code ∈ e.2, code ≠ 32 := by decide

theorem space_not_shifted : ∀ r ∈ upperRuns, 32 < (r.1 : Int) + r.2.2.2 := by decide +kernel

theorem eq_space_of_mem_upperChar {c : Char} (h : ' ' ∈ upperChar c) : c = ' ' := by
  unfold upperChar at h
  simp only at h
  split at h
  · rename_i codes hf
    obtain ⟨code, hc, he⟩ := List.mem_map.1 h
    exact absurd (ofNat_eq_space he) (space_not_expanded _ (List.mem_of_find?_eq_some hf) code hc)
  · split at h
    · rename_i first last step distance hf
      have hs := space_not_shifted _ (List.mem_of_find?_eq_some hf)
      have hr := List.find?_some hf
      have he := ofNat_eq_space (List.mem_singleton.1 h).symm
      simp only [Bool.and_eq_true, decide_eq_true_eq] at hr hs
      omega
    · exact (List.mem_singleton.1 h).symm

def upperChars (cs : List Char) : List Char := cs.flatMap upperChar

theorem toList_upperText (text : String) : (upperText text).toList = upperChars text.toList := by
  rw [upperText, String.toList_ofList, upperChars]

theorem upperChars_pair (first second : List Char) :
    upperChars (first ++ ' ' :: second) = upperChars first ++ ' ' :: upperChars second := by
  have hs : upperChar ' ' = [' '] := upperChar_of_lt (by decide)
  simp [upperChars, hs]

theorem space_notMem_upperChars {cs : List Char} (h : ' ' ∉ cs) : ' ' ∉ upperChars cs := by
  intro hm
  obtain ⟨c, hc, hu⟩ := List.mem_flatMap.1 hm
  rw [eq_space_of_mem_upperChar hu] at hc
  exact h hc

theorem mem_upperChars {c : Char} {cs : List Char} (h : c ∈ cs) (fixed : upperChar c = [c]) :
    c ∈ upperChars cs :=
  List.mem_flatMap.2 ⟨c, h, by simp [fixed]⟩

/-! ## Operators -/

theorem Operator.ofValue_eq_ok {v : Value} {operator : Operator} :
    Operator.ofValue v = .ok operator ↔ v = .text operator.text := by
  constructor
  · intro h
    unfold Operator.ofValue at h
    split at h
    · split at h
      · rename_i hn
        cases h
        unfold Operator.ofText? at hn
        split at hn
        · cases hn
          rfl
        · cases hn
      · cases h
    · cases h
  · rintro rfl
    simp [Operator.ofValue, Operator.ofText?, operator.listed]

theorem Operator.ofValue_eq_error {v : Value} {fault : Fault} :
    Operator.ofValue v = .error fault ↔
      (∀ operator : Operator, v ≠ .text operator.text) ∧ fault = .invalidOperator v := by
  have hfault : ∀ other, Operator.ofValue v = .error other → other = .invalidOperator v := by
    intro other h
    unfold Operator.ofValue at h
    split at h
    · split at h <;> cases h
      rfl
    · cases h
      rfl
  constructor
  · intro h
    refine ⟨fun operator hv => ?_, hfault fault h⟩
    rw [Operator.ofValue_eq_ok.2 hv] at h
    cases h
  · rintro ⟨hv, rfl⟩
    cases h : Operator.ofValue v with
    | ok operator => exact absurd (Operator.ofValue_eq_ok.1 h) (hv operator)
    | error other => rw [hfault other h]

def isOperator (cs : List Char) : Bool :=
  comparisonOperators.contains (upperText (String.ofList cs))

theorem Operator.isOperator_text (operator : Operator) :
    isOperator operator.text.toList = true := by
  rw [isOperator, String.ofList_toList]
  simpa using operator.listed

def secondWords : List (List Char) := [['L', 'I', 'K', 'E'], ['N', 'O', 'T']]

theorem listed_tail : ∀ s ∈ comparisonOperators,
    (s.toList.span (· != ' ')).2 ∈ [] :: secondWords.map (' ' :: ·) := by decide

/-- An operator of two words ends in one of two words. -/
theorem upperChars_second {first second : List Char} (hf : ' ' ∉ first)
    (h : isOperator (first ++ ' ' :: second) = true) : upperChars second ∈ secondWords := by
  have hspan := span_space (space_notMem_upperChars hf) (upperChars second)
  have hl : upperText (String.ofList (first ++ ' ' :: second)) ∈ comparisonOperators := by
    simpa [isOperator] using h
  have ht := listed_tail _ hl
  rw [toList_upperText, String.toList_ofList, upperChars_pair, hspan] at ht
  simpa using ht

/-- An operator is one word, or two with one space between them. -/
theorem Operator.words (operator : Operator) :
    ' ' ∉ operator.text.toList ∨
      ∃ first second, operator.text.toList = first ++ ' ' :: second ∧ ' ' ∉ first ∧
        ' ' ∉ second := by
  by_cases h : ' ' ∈ operator.text.toList
  · obtain ⟨first, second, ht, hf⟩ := List.eq_append_cons_of_mem h
    have hw := upperChars_second hf (ht ▸ operator.isOperator_text)
    refine Or.inr ⟨first, second, ht, hf, fun hs => ?_⟩
    -- a further space would be one of the upper case form, where the second word has none
    have hspace : ' ' ∈ upperChars second := mem_upperChars hs (upperChar_of_lt (by decide))
    revert hspace
    rcases List.mem_pair.1 hw with hw | hw <;> simp [hw]
  · exact Or.inl h

theorem Operator.notMem_text {c : Char} (h : c.toNat < 97)
    (unlisted : ∀ s ∈ comparisonOperators, c ∉ s.toList) (operator : Operator) :
    c ∉ operator.text.toList := by
  intro hc
  have hu := mem_upperChars hc (upperChar_of_lt h)
  rw [← toList_upperText] at hu
  exact unlisted _ operator.listed hu

end TableRecords
