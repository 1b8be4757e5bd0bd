import Mathlib
import TableRecords.Number.Scientific
import TableRecords.Proofs.Number.Shortest

/-! # Numerals

The decimals that numbers are written as: digits, a fraction after a point if there is one, and an
exponent with its sign if there is one. A numeral is read back as the coefficient and the exponent
that its parts spell. Every finite magnitude is written as a numeral with a point or an exponent,
which names that magnitude again.
-/

namespace TableRecords

def AreDigits (cs : List Char) : Prop := cs ≠ [] ∧ ∀ c ∈ cs, c.isDigit = true

theorem areDigits_toDigits (n : Nat) : AreDigits (Nat.toDigits 10 n) :=
  ⟨Nat.toDigits_ne_nil, fun _ hc => Nat.isDigit_of_mem_toDigits (by decide) (by decide) hc⟩

theorem AreDigits.append {cs ds : List Char} (h : AreDigits cs) (hd : ∀ c ∈ ds, c.isDigit = true) :
    AreDigits (cs ++ ds) := by
  refine ⟨by simp [h.1], fun c hc => ?_⟩
  rcases List.mem_append.1 hc with hc | hc
  · exact h.2 c hc
  · exact hd c hc

theorem isDigit_of_mem_replicate {n : Nat} {c : Char} (hc : c ∈ List.replicate n '0') :
    c.isDigit = true := by
  rw [(List.mem_replicate.1 hc).2]
  rfl

theorem AreDigits.padded {cs : List Char} (h : AreDigits cs) (n : Nat) :
    AreDigits (List.replicate n '0' ++ cs) := by
  refine ⟨by simp [h.1], fun c hc => ?_⟩
  rcases List.mem_append.1 hc with hc | hc
  · exact isDigit_of_mem_replicate hc
  · exact h.2 c hc

def signChars : Option Bool → List Char
  | none => []
  | some true => ['-']
  | some false => ['+']

theorem splitSign_signChars (sign : Option Bool) {ds : List Char} (h : AreDigits ds) :
    splitSign (signChars sign ++ ds) = (sign.getD false, ds) := by
  match sign with
  | some true => rfl
  | some false => rfl
  | none =>
      obtain ⟨d, rest, rfl⟩ := List.exists_cons_of_ne_nil h.1
      have hd : d.isDigit = true := h.2 d (by simp)
      have hm : d ≠ '-' := by rintro rfl; simp at hd
      have hp : d ≠ '+' := by rintro rfl; simp at hd
      simp [signChars, splitSign, hm, hp]

/-- An unsigned numeral. No fraction means no point, and no exponent means no mark of one. -/
structure Numeral where
  whole : List Char
  fraction : List Char := []
  sign : Option Bool := none
  exponent : List Char := []
  whole_digits : AreDigits whole
  fraction_digits : ∀ c ∈ fraction, c.isDigit = true
  exponent_digits : ∀ c ∈ exponent, c.isDigit = true

namespace Numeral

def pointed (n : Numeral) : List Char := if n.fraction = [] then [] else '.' :: n.fraction

def marked (n : Numeral) : List Char :=
  if n.exponent = [] then [] else 'e' :: (signChars n.sign ++ n.exponent)

def chars (n : Numeral) : List Char := n.whole ++ (n.pointed ++ n.marked)

def ofDigits (ds : List Char) (h : AreDigits ds) : Numeral where
  whole := ds
  whole_digits := h
  fraction_digits := by simp
  exponent_digits := by simp

@[simp] theorem chars_ofDigits {ds : List Char} (h : AreDigits ds) :
    (ofDigits ds h).chars = ds := by
  simp [chars, pointed, marked, ofDigits]

theorem chars_eq_cons (n : Numeral) : ∃ d rest, n.chars = d :: rest ∧ d.isDigit = true := by
  obtain ⟨d, rest, hw⟩ := List.exists_cons_of_ne_nil n.whole_digits.1
  refine ⟨d, rest ++ (n.pointed ++ n.marked), ?_, n.whole_digits.2 d (by simp [hw])⟩
  rw [chars, hw, List.cons_append]

def scientific (n : Numeral) : Scientific :=
  let power : Int := ofDecimalDigits n.exponent
  ⟨ofDecimalDigits (n.whole ++ n.fraction),
    (if n.sign.getD false then -power else power) - n.fraction.length⟩

end Numeral

/-- A run of characters is read whole when what follows does not continue it. -/
theorem span_append {p : Char → Bool} {run rest : List Char} (inside : ∀ c ∈ run, p c = true)
    (boundary : ∀ c ∈ rest.head?, p c = false) : (run ++ rest).span p = (run, rest) := by
  rw [List.span_eq_takeWhile_dropWhile, List.takeWhile_append_of_pos inside,
    List.dropWhile_append_of_pos inside]
  cases rest with
  | nil => simp
  | cons c rest => simp [boundary c (by simp)]

theorem span_space {run : List Char} (h : ' ' ∉ run) (rest : List Char) :
    (run ++ ' ' :: rest).span (· != ' ') = (run, ' ' :: rest) := by
  refine span_append (fun c hc => bne_iff_ne.2 ?_) (by simp)
  rintro rfl
  exact h hc

namespace Numeral

theorem exponentOfChars_signed (sign : Option Bool) {ds : List Char} (h : AreDigits ds) :
    Scientific.exponentOfChars? (signChars sign ++ ds) =
      some (if sign.getD false then -(ofDecimalDigits ds : Int) else ofDecimalDigits ds) := by
  have ha : ds.all Char.isDigit = true := List.all_eq_true.2 h.2
  have he : ds.isEmpty = false := by simpa using h.1
  simp only [Scientific.exponentOfChars?, splitSign_signChars sign h, he, ha]
  rfl

theorem head_marked (n : Numeral) : ∀ c ∈ n.marked.head?, c.isDigit = false := by
  unfold marked
  split <;> simp

theorem head_pointed (n : Numeral) : ∀ c ∈ (n.pointed ++ n.marked).head?, c.isDigit = false := by
  unfold pointed
  split
  · exact n.head_marked
  · simp

/-- A numeral reads back as what its parts spell. -/
theorem ofChars_chars (n : Numeral) : Scientific.ofChars? n.chars = some n.scientific := by
  have hw := span_append n.whole_digits.2 n.head_pointed
  have hf := span_append n.fraction_digits n.head_marked
  have hne : n.whole ≠ [] := n.whole_digits.1
  unfold Scientific.ofChars? chars
  rw [hw]
  by_cases he : n.exponent = []
  · have hm : n.marked = [] := by simp [marked, he]
    rw [hm] at hf ⊢
    by_cases hp : n.fraction = []
    · simp [pointed, scientific, hp, he, hne, ofDecimalDigits]
    · simp only [List.append_nil] at hf
      simp [-List.span_eq_takeWhile_dropWhile, pointed, scientific, hp, he, hf, hne,
        ofDecimalDigits]
  · have hx := exponentOfChars_signed n.sign ⟨he, n.exponent_digits⟩
    have hm : n.marked = 'e' :: (signChars n.sign ++ n.exponent) := by simp [marked, he]
    rw [hm] at hf ⊢
    by_cases hp : n.fraction = []
    · simp [pointed, scientific, hp, hx, hne]
    · simp [-List.span_eq_takeWhile_dropWhile, pointed, scientific, hp, hf, hx, hne]

end Numeral

theorem ofDecimalDigits_toDigits (n : Nat) : ofDecimalDigits (Nat.toDigits 10 n) = n :=
  Nat.ofDigitChars_ten_toDigits

theorem ofDecimalDigits_zeros_append (k : Nat) (ds : List Char) :
    ofDecimalDigits (List.replicate k '0' ++ ds) = ofDecimalDigits ds := by
  have hz : Nat.ofDigitChars 10 (List.replicate k '0') 0 = 0 := by
    simp [Nat.ofDigitChars_replicate_zero]
  change Nat.ofDigitChars 10 (_ ++ ds) 0 = Nat.ofDigitChars 10 ds 0
  rw [Nat.ofDigitChars_append, hz]

theorem ofDecimalDigits_append_zeros (ds : List Char) (k : Nat) :
    ofDecimalDigits (ds ++ List.replicate k '0') = ofDecimalDigits ds * tenPow k := by
  change Nat.ofDigitChars 10 (ds ++ _) 0 = Nat.ofDigitChars 10 ds 0 * tenPow k
  rw [Nat.ofDigitChars_append, Nat.ofDigitChars_replicate_zero]
  exact Nat.mul_comm _ _

theorem toDigits_eq_significantDigits (n : Nat) :
    ∃ k, Nat.toDigits 10 n = significantDigits n ++ List.replicate k '0' := by
  have hsplit := List.takeWhile_append_dropWhile (p := (· == '0'))
    (l := (Nat.toDigits 10 n).reverse)
  have hzeros : ∀ c ∈ (Nat.toDigits 10 n).reverse.takeWhile (· == '0'), c = '0' :=
    fun c hc => by simpa using List.mem_takeWhile_imp hc
  rw [List.eq_replicate_iff.2 ⟨rfl, hzeros⟩] at hsplit
  have hreverse := congrArg List.reverse hsplit
  rw [List.reverse_append, List.reverse_replicate, List.reverse_reverse] at hreverse
  exact ⟨_, hreverse.symm⟩

theorem significantDigits_spec (n : Nat) :
    ∃ k, n = ofDecimalDigits (significantDigits n) * tenPow k ∧
      decimalWidth n = (significantDigits n).length + k := by
  obtain ⟨k, hk⟩ := toDigits_eq_significantDigits n
  refine ⟨k, ?_, ?_⟩
  · rw [← ofDecimalDigits_append_zeros, ← hk, ofDecimalDigits_toDigits]
  · rw [decimalWidth_eq, hk, List.length_append, List.length_replicate]

theorem significantDigits_digits {n : Nat} (h : 0 < n) : AreDigits (significantDigits n) := by
  obtain ⟨k, hk⟩ := toDigits_eq_significantDigits n
  refine ⟨fun hnil => ?_, fun c hc => (areDigits_toDigits n).2 c (by simp [hk, hc])⟩
  obtain ⟨k, hn, -⟩ := significantDigits_spec n
  rw [hnil] at hn
  exact absurd (hn.trans (Nat.zero_mul _)) (Nat.ne_of_gt h)

/-! ## Writing a magnitude -/

def Numeral.IsReal (n : Numeral) : Prop := n.fraction ≠ [] ∨ n.exponent ≠ []

theorem exponentText_eq (exponent : Int) :
    ∃ ds, AreDigits ds ∧ exponentText exponent = signChars (some (exponent < 0)) ++ ds ∧
      ofDecimalDigits ds = exponent.natAbs := by
  let digits := Nat.toDigits 10 exponent.natAbs
  refine ⟨List.replicate (2 - digits.length) '0' ++ digits, ?_, ?_, ?_⟩
  · exact (areDigits_toDigits exponent.natAbs).padded _
  · by_cases h : exponent < 0 <;> simp [exponentText, signChars, digits, h]
  · rw [ofDecimalDigits_zeros_append, ofDecimalDigits_toDigits]

/-- Without an exponent the point alone places the digits. -/
theorem Numeral.scientific_pointed {n : Numeral} (h : n.exponent = []) :
    n.scientific = ⟨ofDecimalDigits (n.whole ++ n.fraction), -n.fraction.length⟩ := by
  simp [scientific, h, ofDecimalDigits]

/-- Whether characters are a numeral with a point or an exponent, and with the value of digits
placed around the point: the digits as a whole, with the zeros that the layout puts behind them, and
an exponent that makes up for these. -/
def Lays (cs digits : List Char) (place : Int) : Prop :=
  ∃ n : Numeral, cs = n.chars ∧ n.IsReal ∧ ∃ zeros : Nat,
    n.scientific = ⟨ofDecimalDigits digits * tenPow zeros, place - digits.length - zeros⟩

section

variable {digits : List Char} {place : Int}

theorem lays_behind_point (h : AreDigits digits) (hp : place ≤ 0) :
    Lays ('0' :: '.' :: (List.replicate (-place).toNat '0' ++ digits)) digits place := by
  have hd := h.padded (-place).toNat
  refine ⟨⟨['0'], List.replicate (-place).toNat '0' ++ digits, none, [], ⟨by simp, by simp⟩,
    hd.2, by simp⟩, ?_, Or.inl hd.1, 0, ?_⟩
  · simp [Numeral.chars, Numeral.pointed, Numeral.marked, h.1]
  · have hv := ofDecimalDigits_zeros_append ((-place).toNat + 1) digits
    have hplace : -(((-place).toNat + digits.length : Nat) : Int) =
        place - digits.length - (0 : Nat) := by omega
    rw [Numeral.scientific_pointed rfl, tenPow_zero, Nat.mul_one, List.length_append,
      List.length_replicate, hplace, ← hv]
    rfl

theorem lays_before_point (h : AreDigits digits) (hp : digits.length ≤ place) :
    Lays (digits ++ List.replicate (place.toNat - digits.length) '0' ++ ['.', '0']) digits
      place := by
  have hz := h.append fun c hc => isDigit_of_mem_replicate (n := place.toNat - digits.length) hc
  refine ⟨⟨_, ['0'], none, [], hz, by simp, by simp⟩, ?_, Or.inl (by simp),
    place.toNat - digits.length + 1, ?_⟩
  · simp [Numeral.chars, Numeral.pointed, Numeral.marked]
  · have hv := ofDecimalDigits_append_zeros digits (place.toNat - digits.length + 1)
    have hplace : -((['0'].length : Nat) : Int) =
        place - digits.length - (place.toNat - digits.length + 1 : Nat) := by
      simp only [List.length_singleton]
      omega
    rw [Numeral.scientific_pointed rfl, hplace, ← hv, List.replicate_succ', List.append_assoc]

theorem lays_around_point (h : AreDigits digits) (hp : 0 < place) (hl : place < digits.length) :
    Lays (digits.take place.toNat ++ '.' :: digits.drop place.toNat) digits place := by
  have hw : AreDigits (digits.take place.toNat) := by
    refine ⟨?_, fun c hc => h.2 c (List.mem_of_mem_take hc)⟩
    simp [h.1]
    omega
  have hf : digits.drop place.toNat ≠ [] := by
    simp
    omega
  refine ⟨⟨_, digits.drop place.toNat, none, [], hw,
    fun c hc => h.2 c (List.mem_of_mem_drop hc), by simp⟩, ?_, Or.inl hf, 0, ?_⟩
  · simp [Numeral.chars, Numeral.pointed, Numeral.marked, hf]
  · have hplace : -((digits.drop place.toNat).length : Int) =
        place - digits.length - (0 : Nat) := by
      rw [List.length_drop]
      omega
    rw [Numeral.scientific_pointed rfl, hplace, tenPow_zero, Nat.mul_one]
    simp only [List.take_append_drop]

theorem lays_with_exponent {lead : Char} {rest : List Char} (h : AreDigits (lead :: rest))
    (place : Int) :
    Lays (lead :: ((if rest.isEmpty then [] else '.' :: rest) ++ 'e' :: exponentText (place - 1)))
      (lead :: rest) place := by
  obtain ⟨ds, hd, he, hv⟩ := exponentText_eq (place - 1)
  refine ⟨⟨[lead], rest, some (place - 1 < 0), ds, ⟨by simp, ?_⟩, ?_, hd.2⟩, ?_, Or.inr hd.1, 0, ?_⟩
  · simpa using h.2 lead (by simp)
  · exact fun c hc => h.2 c (by simp [hc])
  · simp [Numeral.chars, Numeral.pointed, Numeral.marked, hd.1, he, List.isEmpty_iff]
  · have hpower : (if decide (place - 1 < 0) then -(ofDecimalDigits ds : Int)
        else ofDecimalDigits ds) = place - 1 := by
      rw [hv]
      by_cases hneg : place - 1 < 0
      · rw [if_pos (decide_eq_true hneg)]
        omega
      · rw [if_neg (by simpa using hneg)]
        omega
    have hplace : place - 1 - rest.length = place - (lead :: rest).length - (0 : Nat) := by
      rw [List.length_cons]
      omega
    rw [tenPow_zero, Nat.mul_one, ← hplace]
    exact congrArg (fun power : Int =>
      (⟨ofDecimalDigits (lead :: rest), power - rest.length⟩ : Scientific)) hpower

theorem layDecimal_lays (h : AreDigits digits) (place : Int) :
    Lays (layDecimal digits place) digits place := by
  unfold layDecimal
  split
  · split
    · rename_i hp
      exact lays_behind_point h hp
    · rename_i hp
      by_cases hl : place < digits.length
      · have hpad : place.toNat - (digits.take place.toNat).length = 0 := by
          rw [List.length_take]
          omega
        have hf : (digits.drop place.toNat).isEmpty = false := by
          simp
          omega
        have haround := lays_around_point h (by omega) hl
        simpa only [hpad, hf, List.replicate_zero, List.append_nil, Bool.false_eq_true, if_false]
          using haround
      · have htake : digits.take place.toNat = digits := List.take_of_length_le (by omega)
        have hdrop : digits.drop place.toNat = [] := List.drop_of_length_le (by omega)
        have hbefore := lays_before_point h (Int.not_lt.1 hl)
        simpa only [htake, hdrop, List.isEmpty_nil, if_true] using hbefore
  · cases digits with
    | nil => exact absurd rfl h.1
    | cons lead rest => exact lays_with_exponent h place

end

theorem Magnitude.shortest_pos {x : Magnitude} (h : x.mantissa ≠ 0) : 0 < x.shortest.1 := by
  have hcovers := readsBack_iff_covers.1 (shortest_readsBack h)
  have hpos := hcovers.pos h
  rcases Nat.eq_zero_or_pos x.shortest.1 with hz | hz
  · rw [hz, Nat.zero_mul, Nat.zero_mul] at hpos
    exact absurd hpos (Nat.not_le.2 (Nat.pow_pos (by decide)))
  · exact hz

theorem Magnitude.eq_zero {x : Magnitude} (h : x.mantissa = 0) : x = .zero := by
  obtain ⟨mantissa, shift, canonical⟩ := x
  cases h
  have hs : shift = 0 := canonical.2.2.resolve_right (Nat.not_le.2 (Nat.two_pow_pos 52))
  cases hs
  rfl

/-- Every magnitude is written as a numeral, which is read as that magnitude. -/
theorem Magnitude.decimalChars_numeral (x : Magnitude) :
    ∃ n : Numeral, x.decimalChars = n.chars ∧ n.IsReal ∧
      ∀ negative, Binary64.ofScientific negative n.scientific = .finite negative x := by
  by_cases h : x.mantissa = 0
  · refine ⟨⟨['0'], ['0'], none, [], ⟨by simp, by simp⟩, by simp, by simp⟩, ?_,
      Or.inl (by simp), ?_⟩
    · rw [decimalChars, if_pos h]
      rfl
    · intro negative
      rw [x.eq_zero h]
      exact if_pos rfl
  · have hdigits := significantDigits_digits (shortest_pos h)
    obtain ⟨k, hvalue, hwidth⟩ := significantDigits_spec x.shortest.1
    obtain ⟨n, hn, hreal, zeros, hs⟩ :=
      layDecimal_lays hdigits (decimalWidth x.shortest.1 + x.shortest.2)
    refine ⟨n, ?_, hreal, fun negative => ?_⟩
    · rw [decimalChars, if_neg h]
      exact hn
    · have hread := shortest_readsBack h
      have hexponent : x.shortest.2 = x.shortest.2 + k - k := by omega
      rw [hvalue, hexponent, readsBack_shift, ← readsBack_shift zeros] at hread
      have hplace : (decimalWidth x.shortest.1 : Int) + x.shortest.2 -
          (significantDigits x.shortest.1).length - zeros = x.shortest.2 + k - zeros := by omega
      rw [hs, hplace]
      exact Binary64.ofScientific_of_readsBack h hread negative

/-- Whether characters are a numeral after an optional minus. -/
def IsNumber (cs : List Char) : Prop :=
  ∃ (negative : Bool) (n : Numeral), cs = (if negative then ['-'] else []) ++ n.chars

theorem isNumber_toString (n : Int) : IsNumber (toString n).toList := by
  rw [Int.toString_eq_repr, Int.repr_eq_if]
  split
  · exact ⟨false, .ofDigits _ (areDigits_toDigits n.toNat), by simp⟩
  · exact ⟨true, .ofDigits _ (areDigits_toDigits (-n).toNat), by simp⟩

theorem isNumber_finite (negative : Bool) (x : Magnitude) :
    IsNumber (Binary64.finite negative x).toText.toList := by
  obtain ⟨n, hn, -⟩ := x.decimalChars_numeral
  exact ⟨negative, n, by simp [Binary64.toText, hn]⟩

def isNumberChar (c : Char) : Bool := c.isDigit || ['.', 'e', '+', '-'].contains c

theorem isNumberChar_of_mem_signChars {sign : Option Bool} {c : Char} (hc : c ∈ signChars sign) :
    isNumberChar c = true := by
  match sign with
  | none => cases hc
  | some true | some false =>
      rw [List.mem_singleton.1 hc]
      rfl

theorem Numeral.isNumberChar_of_mem {n : Numeral} {c : Char} (hc : c ∈ n.chars) :
    isNumberChar c = true := by
  simp only [chars, pointed, marked, List.mem_append] at hc
  rcases hc with hc | hc | hc
  · simp [isNumberChar, n.whole_digits.2 c hc]
  · split at hc
    · cases hc
    · rcases List.mem_cons.1 hc with rfl | hc
      · rfl
      · simp [isNumberChar, n.fraction_digits c hc]
  · split at hc
    · cases hc
    · rcases List.mem_cons.1 hc with rfl | hc
      · rfl
      · rcases List.mem_append.1 hc with hc | hc
        · exact isNumberChar_of_mem_signChars hc
        · simp [isNumberChar, n.exponent_digits c hc]

theorem IsNumber.isNumberChar_of_mem {cs : List Char} (h : IsNumber cs) {c : Char} (hc : c ∈ cs) :
    isNumberChar c = true := by
  obtain ⟨negative, n, rfl⟩ := h
  rcases List.mem_append.1 hc with hc | hc
  · cases negative with
    | false => cases hc
    | true =>
        rw [List.mem_singleton.1 hc]
        rfl
  · exact n.isNumberChar_of_mem hc

theorem IsNumber.head {cs : List Char} (h : IsNumber cs) :
    ∃ c rest, cs = c :: rest ∧ (c.isDigit = true ∨ c = '-') := by
  obtain ⟨negative, n, rfl⟩ := h
  obtain ⟨c, rest, hc, hd⟩ := n.chars_eq_cons
  cases negative with
  | false => exact ⟨c, rest, hc, Or.inl hd⟩
  | true => exact ⟨'-', n.chars, rfl, Or.inr rfl⟩

end TableRecords
