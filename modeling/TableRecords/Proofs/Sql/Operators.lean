import Mathlib
import TableRecords.Proofs.Sql.Keys

/-! # What is accepted as an operator

Operators are compared in their upper case form, and two characters beyond ASCII, the dotless i and
the long s, have an ASCII letter as theirs. So the texts that are accepted are those that spell a
listed operator in ASCII letters of any case, and those that have one of the two in the place of an
I or an S. The latter stand in a clause as they were given.
-/

namespace TableRecords

/-- The small letters beyond ASCII whose upper case form is an ASCII letter. -/
def IsStrayLetter (c : Char) : Prop := c = 'ı' ∨ c = 'ſ'

/-- The capital of an ASCII letter or of a stray one. Any other character stands for itself. -/
def capital (c : Char) : Char := if c = 'ı' then 'I' else if c = 'ſ' then 'S' else c.toUpper

theorem capital_of_not_stray {c : Char} (h : ¬IsStrayLetter c) : capital c = c.toUpper := by
  rw [capital, if_neg fun hc => h (.inl hc), if_neg fun hc => h (.inr hc)]

theorem IsStrayLetter.le_toNat {c : Char} (h : IsStrayLetter c) : 128 ≤ c.toNat := by
  obtain rfl | rfl := h <;> decide

theorem toUpper_eq_self {c : Char} (h : c.toNat < 97 ∨ 128 ≤ c.toNat) : c.toUpper = c := by
  rw [Char.toUpper, dif_neg]
  intro hsmall
  have hfirst : 97 ≤ c.toNat := UInt32.le_iff_toNat_le.1 hsmall.1
  have hlast : c.toNat ≤ 122 := UInt32.le_iff_toNat_le.1 hsmall.2
  omega

theorem upperChar_ascii : ∀ n < 31,
    upperChar (Char.ofNat (97 + n)) = [capital (Char.ofNat (97 + n))] := by decide

theorem upperChar_eq_capital {c : Char} (h : c.toNat < 128 ∨ IsStrayLetter c) :
    upperChar c = [capital c] := by
  obtain h | rfl | rfl := h
  · by_cases hlow : c.toNat < 97
    · have hstray : ¬IsStrayLetter c := fun hc => absurd hc.le_toNat (by omega)
      rw [upperChar_of_lt hlow, capital_of_not_stray hstray, toUpper_eq_self (.inl hlow)]
    · have hascii := upperChar_ascii (c.toNat - 97) (by omega)
      rwa [Nat.add_sub_cancel' (by omega), Char.ofNat_toNat] at hascii
  · decide
  · decide

theorem ascii_of_toUpper {c : Char} (h : c.toUpper.toNat < 128) : c.toNat < 128 := by
  by_contra hc
  rw [toUpper_eq_self (.inr (by omega))] at h
  exact hc h

theorem ascii_or_stray_of_capital {c : Char} (h : (capital c).toNat < 128) :
    c.toNat < 128 ∨ IsStrayLetter c := by
  by_cases hc : IsStrayLetter c
  · exact .inr hc
  · rw [capital_of_not_stray hc] at h
    exact .inl (ascii_of_toUpper h)

theorem listed_all_ascii : ∀ listed ∈ comparisonOperators,
    listed.toList.all (fun c => 0 < c.toNat && c.toNat < 128) = true := by decide

theorem listed_ascii {listed : String} (hl : listed ∈ comparisonOperators) {c : Char}
    (hc : c ∈ listed.toList) : 0 < c.toNat ∧ c.toNat < 128 := by
  simpa using List.all_eq_true.1 (listed_all_ascii listed hl) c hc

theorem expansions_unlisted : ∀ listed ∈ comparisonOperators, ∀ e ∈ upperExpansions,
    ¬e.2.map Char.ofNat <:+: listed.toList := by decide +kernel

/-- What a character beyond ASCII is shifted to stays beyond it, the stray letters apart. -/
theorem runs_beyond_ascii : ∀ r ∈ upperRuns,
    128 ≤ (r.1 : Int) + r.2.2.2 ∨ r.2.1 < 128 ∨ r.1 = r.2.1 ∧ (r.1 = 0x131 ∨ r.1 = 0x17F) := by
  decide +kernel

theorem ascii_or_stray_of_upperChar {c : Char} {listed : String}
    (hl : listed ∈ comparisonOperators) (h : upperChar c <:+: listed.toList) :
    c.toNat < 128 ∨ IsStrayLetter c := by
  unfold upperChar at h
  simp only at h
  split at h
  · rename_i codes hf
    exact absurd h (expansions_unlisted listed hl _ (List.mem_of_find?_eq_some hf))
  · split at h
    · rename_i first last step distance hf
      have hrange := List.find?_some hf
      simp only [Bool.and_eq_true, decide_eq_true_eq] at hrange
      have hchar := listed_ascii hl (h.subset (List.mem_singleton.2 rfl))
      rw [Char.toNat_ofNat] at hchar
      have hrun := runs_beyond_ascii _ (List.mem_of_find?_eq_some hf)
      simp only at hrun
      obtain hbeyond | hlast | ⟨hone, hcode⟩ := hrun
      · split at hchar <;> omega
      · exact .inl (by omega)
      · have hc : c = Char.ofNat first := by
          rw [← Char.ofNat_toNat c, show c.toNat = first by omega]
        right
        obtain rfl | rfl := hcode
        · exact .inl hc
        · exact .inr hc
    · exact .inl (listed_ascii hl (h.subset (List.mem_singleton.2 rfl))).2

/-! ## Accepted texts -/

/-- A text spells a listed operator in ASCII letters of any case. -/
def IsListed (s : String) : Prop :=
  ∃ listed ∈ comparisonOperators, s.toList.map Char.toUpper = listed.toList

def HasStrayLetter (s : String) : Prop := ∃ c ∈ s.toList, IsStrayLetter c

theorem Operator.accepts_iff_listed {s : String} :
    Operator.Accepts s ↔ ∃ listed ∈ comparisonOperators, upperChars s.toList = listed.toList := by
  rw [Operator.accepts_iff]
  constructor
  · rintro ⟨operator, rfl⟩
    exact ⟨_, operator.listed, (toList_upperText _).symm⟩
  · rintro ⟨listed, hl, h⟩
    rw [← toList_upperText, String.toList_inj] at h
    exact ⟨⟨s, h ▸ hl⟩, rfl⟩

theorem upperChars_eq_map {cs : List Char} (h : ∀ c ∈ cs, c.toNat < 128 ∨ IsStrayLetter c) :
    upperChars cs = cs.map capital := by
  rw [List.map_eq_flatMap, upperChars]
  exact List.flatMap_congr fun c hc => upperChar_eq_capital (h c hc)

/-- The accepted texts are those that spell a listed operator when an I may be a dotless i and an S
a long s. -/
theorem Operator.accepts_iff_capital {s : String} :
    Operator.Accepts s ↔ ∃ listed ∈ comparisonOperators, s.toList.map capital = listed.toList := by
  rw [Operator.accepts_iff_listed]
  refine exists_congr fun listed => and_congr_right fun hl => ?_
  constructor
  · intro h
    rw [← h, upperChars_eq_map]
    intro c hc
    refine ascii_or_stray_of_upperChar hl ?_
    rw [← h]
    exact List.infix_flatMap_of_mem hc upperChar
  · intro h
    rw [← h, upperChars_eq_map]
    intro c hc
    exact ascii_or_stray_of_capital (listed_ascii hl (h ▸ List.mem_map_of_mem hc)).2

theorem IsListed.ascii {s : String} (h : IsListed s) {c : Char} (hc : c ∈ s.toList) :
    c.toNat < 128 := by
  obtain ⟨listed, hl, hs⟩ := h
  exact ascii_of_toUpper (listed_ascii hl (hs ▸ List.mem_map_of_mem hc)).2

theorem map_capital {cs : List Char} (h : ∀ c ∈ cs, ¬IsStrayLetter c) :
    cs.map capital = cs.map Char.toUpper :=
  List.map_congr_left fun c hc => capital_of_not_stray (h c hc)

/-- Among the accepted texts, those that spell a listed operator are the ones without a stray
letter. -/
theorem isListed_iff {s : String} :
    IsListed s ↔ Operator.Accepts s ∧ ¬HasStrayLetter s := by
  rw [Operator.accepts_iff_capital]
  constructor
  · intro h
    have hstray : ∀ c ∈ s.toList, ¬IsStrayLetter c := fun c hc hs =>
      absurd (h.ascii hc) (Nat.not_lt.2 hs.le_toNat)
    refine ⟨?_, fun ⟨c, hc, hs⟩ => hstray c hc hs⟩
    rw [map_capital hstray]
    exact h
  · rintro ⟨h, hstray⟩
    rw [map_capital fun c hc hs => hstray ⟨c, hc, hs⟩] at h
    exact h

theorem accepts_of_states {fragments : List Fragment} {conditions : Pairs}
    (h : List.Forall₂ Fragment.States fragments conditions) {fragment : Fragment}
    (hm : fragment ∈ fragments) : Operator.Accepts fragment.operator := by
  obtain ⟨entry, -, column, operator, -, -, rfl⟩ := Outcome.exists_of_mem h hm
  exact Operator.accepts_iff.2 ⟨operator, rfl⟩

/-- A text is accepted exactly if it spells a listed operator when an I may be a dotless i and an S
a long s, so it spells one in ASCII letters exactly if it has neither. Every operator of a clause is
such a text, as it stands there: it is listed and plain ASCII unless one of the two was put in. -/
theorem operators_listed_unless_stray (s : String) (conditions : Pairs) :
    (Operator.Accepts s ↔
      ∃ listed ∈ comparisonOperators, s.toList.map capital = listed.toList) ∧
    (IsListed s ↔ Operator.Accepts s ∧ ¬HasStrayLetter s) ∧
    ∀ clause, buildWhere conditions = .ok clause →
      ∃ fragments, readClause clause = some fragments ∧
        List.Forall₂ Fragment.States fragments conditions ∧
        ∀ fragment ∈ fragments, Operator.Accepts fragment.operator ∧
          (HasStrayLetter fragment.operator ∨ IsListed fragment.operator ∧
            ∀ c ∈ fragment.operator.toList, c.toNat < 128) := by
  refine ⟨Operator.accepts_iff_capital, isListed_iff, fun clause h => ?_⟩
  obtain ⟨fragments, hread, hstates⟩ := buildWhere_states h
  refine ⟨fragments, hread, hstates, fun fragment hm => ?_⟩
  have haccepts := accepts_of_states hstates hm
  refine ⟨haccepts, ?_⟩
  by_cases hstray : HasStrayLetter fragment.operator
  · exact .inl hstray
  · have hlisted : IsListed fragment.operator := isListed_iff.2 ⟨haccepts, hstray⟩
    exact .inr ⟨hlisted, fun c hc => hlisted.ascii hc⟩

theorem dotless_like_accepted :
    Operator.Accepts "lıke" ∧ ¬IsListed "lıke" ∧
      buildWhere [(.text "name lıke", .text "x")] = .ok "name lıke 'x'" := by
  refine ⟨Operator.accepts_iff.2 ⟨⟨"lıke", by decide⟩, rfl⟩, fun h => ?_, by rfl⟩
  exact absurd (h.ascii (c := 'ı') (by decide)) (by decide)

theorem operators_listed_in_clause :
    buildWhere [(.text "name not Like", .text "x"), (.text "age", .int 3)] =
      .ok "name not Like 'x' AND age = 3" ∧
    ∃ fragments, readClause "name not Like 'x' AND age = 3" = some fragments ∧
      List.Forall₂ Fragment.States fragments
        [(.text "name not Like", .text "x"), (.text "age", .int 3)] ∧
      ∀ fragment ∈ fragments, Operator.Accepts fragment.operator ∧
        (HasStrayLetter fragment.operator ∨ IsListed fragment.operator ∧
          ∀ c ∈ fragment.operator.toList, c.toNat < 128) :=
  ⟨rfl, (operators_listed_unless_stray "not Like" _).2.2 _ rfl⟩

end TableRecords
