import Mathlib
import TableRecords.Number.Scientific
import TableRecords.Proofs.Number.Rounding

/-! # The shortest decimal of a magnitude

On a grid with seventeen digits a magnitude is so close to its nearest neighbour that the neighbour
rounds to it. So there is a shortest decimal that reads back, and it is read back as the magnitude
it was made of, however its digits are laid out.
-/

namespace TableRecords

theorem decimalWidth_eq (n : Nat) : decimalWidth n = (Nat.toDigits 10 n).length := by
  induction n using decimalWidth.induct with
  | case1 n h =>
      rw [decimalWidth, if_pos h, Nat.toDigits_of_lt_base h]
      rfl
  | case2 n h ih =>
      rw [decimalWidth, if_neg h, ih, Nat.toDigits_of_base_le (by decide) (Nat.le_of_not_lt h),
        List.length_append]
      rfl

theorem lt_tenPow_width (n : Nat) : n < tenPow (decimalWidth n) := by
  rw [decimalWidth_eq]
  exact (Nat.length_toDigits_le_iff (by decide) Nat.length_toDigits_pos).1 (Nat.le_refl _)

theorem tenPow_le_of_width {n w : Nat} (hn : 0 < n) (hw : decimalWidth n = w + 1) :
    tenPow w ≤ n := by
  rcases Nat.eq_zero_or_pos w with rfl | hpos
  · exact hn
  · by_contra h
    have hlt : n < 10 ^ w := Nat.lt_of_not_le h
    have hle := (Nat.length_toDigits_le_iff (by decide) hpos).2 hlt
    rw [← decimalWidth_eq] at hle
    omega

theorem decimalWidth_pos (n : Nat) : 0 < decimalWidth n := by
  rw [decimalWidth_eq]
  exact Nat.length_toDigits_pos

namespace Magnitude

variable {x : Magnitude} {digits : Nat} {exponent : Int}

theorem readsBack_iff_covers : x.readsBack digits exponent = true ↔
    x.Covers (digits * tenPow exponent.toNat) (tenPow (-exponent).toNat) := by
  unfold readsBack Covers gridPoint
  dsimp only
  split <;> simp

theorem readsBack_shift (zeros : Nat) :
    x.readsBack (digits * tenPow zeros) (exponent - zeros) = x.readsBack digits exponent := by
  rw [Bool.eq_iff_iff, readsBack_iff_covers, readsBack_iff_covers]
  refine covers_congr (Nat.pow_pos (by decide)) (Nat.pow_pos (by decide)) ?_
  have hpower : zeros + (exponent - zeros).toNat + (-exponent).toNat =
      exponent.toNat + (-(exponent - zeros)).toNat := by omega
  have hadd : ∀ m n, tenPow (m + n) = tenPow m * tenPow n := Nat.pow_add 10
  rw [Nat.mul_assoc, Nat.mul_assoc, Nat.mul_assoc, ← hadd, ← hadd, ← hadd,
    ← Nat.add_assoc, hpower]

theorem onGrid_readsBack {found : Nat × Int} (h : x.onGrid? exponent = some found) :
    x.readsBack found.1 found.2 = true := by
  unfold onGrid? at h
  extract_lets numerator denominator below nearest other at h
  clear_value nearest other
  by_cases hn : x.readsBack nearest exponent = true
  · rw [if_pos hn, Option.some.injEq] at h
    exact h ▸ hn
  · rw [if_neg hn] at h
    by_cases ho : x.readsBack other exponent = true
    · rw [if_pos ho, Option.some.injEq] at h
      exact h ▸ ho
    · rw [if_neg ho] at h
      cases h

theorem units_pos (h : x.mantissa ≠ 0) : 0 < x.units :=
  Nat.mul_pos (Nat.pos_of_ne_zero h) (Nat.two_pow_pos _)

theorem lowerMargin_lt (h : x.mantissa ≠ 0) : x.lowerMargin < 4 * x.units := by
  have hs : 0 < twoPow x.shift := Nat.two_pow_pos _
  have hu : twoPow x.shift ≤ x.units := Nat.le_mul_of_pos_left _ (Nat.pos_of_ne_zero h)
  unfold lowerMargin
  split <;> omega

theorem units_lt_margin (x : Magnitude) : 2 * x.units < x.lowerMargin * tenPow 16 := by
  have hm : x.mantissa < 9007199254740992 := x.canonical.1
  have hpower : tenPow 16 = 10000000000000000 := rfl
  have hleast : twoPow 52 = 4503599627370496 := rfl
  have hunit : 0 < twoPow x.shift := Nat.two_pow_pos _
  unfold units lowerMargin
  split
  · rename_i h
    rw [h.1, hleast, hpower]
    omega
  · have hle := Nat.mul_le_mul_right (twoPow x.shift) (Nat.le_of_lt hm)
    rw [hpower]
    omega

theorem step_lt_margin (h : x.mantissa ≠ 0) :
    2 * (one * tenPow (x.decimalExponent - 16).toNat) <
      x.lowerMargin * tenPow (-(x.decimalExponent - 16)).toNat := by
  have hlarge : one ≤ tenPow 400 := by decide +kernel
  obtain ⟨w, hw⟩ := Nat.exists_eq_succ_of_ne_zero
    (Nat.pos_iff_ne_zero.1 (decimalWidth_pos (x.units * tenPow 400 / one)))
  have hexponent : x.decimalExponent - 16 = (w : Int) - 416 := by
    rw [decimalExponent, hw]
    omega
  have hwhole : tenPow w * one ≤ x.units * tenPow 400 := by
    have hpos : 0 < x.units * tenPow 400 / one :=
      Nat.div_pos (Nat.le_trans hlarge (Nat.le_mul_of_pos_left _ (units_pos h))) one_pos
    exact (Nat.le_div_iff_mul_le one_pos).1 (tenPow_le_of_width hpos hw)
  rw [hexponent]
  have hpower : w + (-((w : Int) - 416)).toNat = 400 + (16 + ((w : Int) - 416).toNat) := by omega
  generalize ((w : Int) - 416).toNat = up at *
  generalize (-((w : Int) - 416)).toNat = down at *
  have hadd : ∀ m n, tenPow (m + n) = tenPow m * tenPow n := Nat.pow_add 10
  -- the step times `10 ^ 16` is at most the magnitude
  have hstep : tenPow 16 * (one * tenPow up) ≤ x.units * tenPow down := by
    have hpos : 0 < tenPow 400 := Nat.lt_of_lt_of_le one_pos hlarge
    refine Nat.le_of_mul_le_mul_left ?_ hpos
    calc tenPow 400 * (tenPow 16 * (one * tenPow up))
        = tenPow 400 * (tenPow 16 * tenPow up) * one := by
          rw [Nat.mul_comm one, ← Nat.mul_assoc (tenPow 16), Nat.mul_assoc (tenPow 400)]
      _ = tenPow w * one * tenPow down := by
          rw [← hadd, ← hadd, ← hpower, hadd, Nat.mul_right_comm]
      _ ≤ x.units * tenPow 400 * tenPow down := Nat.mul_le_mul_right _ hwhole
      _ = tenPow 400 * (x.units * tenPow down) := by
          rw [Nat.mul_comm x.units, Nat.mul_assoc]
  have hdown : 0 < tenPow down := Nat.pow_pos (by decide)
  have hmargin := Nat.mul_lt_mul_of_pos_right x.units_lt_margin hdown
  refine Nat.lt_of_mul_lt_mul_left (a := tenPow 16) ?_
  calc tenPow 16 * (2 * (one * tenPow up))
      = 2 * (tenPow 16 * (one * tenPow up)) := Nat.mul_left_comm _ _ _
    _ ≤ 2 * (x.units * tenPow down) := Nat.mul_le_mul_left 2 hstep
    _ = 2 * x.units * tenPow down := (Nat.mul_assoc _ _ _).symm
    _ < x.lowerMargin * tenPow 16 * tenPow down := hmargin
    _ = tenPow 16 * (x.lowerMargin * tenPow down) := by
        rw [Nat.mul_comm x.lowerMargin, Nat.mul_assoc]

/-- A neighbour on a grid reads back if the steps of the grid are less than half the margin. -/
theorem nearest_readsBack (hm : x.mantissa ≠ 0)
    (h : 2 * (one * tenPow exponent.toNat) < x.lowerMargin * tenPow (-exponent).toNat) :
    x.readsBack (roundHalfEven (x.units * tenPow (-exponent).toNat)
      (one * tenPow exponent.toNat)) exponent = true := by
  have hstep : 0 < one * tenPow exponent.toNat :=
    Nat.mul_pos one_pos (Nat.pow_pos (by decide))
  have hnear := roundHalfEven_near (x.units * tenPow (-exponent).toNat) hstep
  have hscale : 0 < tenPow (-exponent).toNat := Nat.pow_pos (by decide)
  rw [readsBack_iff_covers, Covers]
  generalize tenPow (-exponent).toNat = scale at *
  generalize hr : roundHalfEven (x.units * scale) (one * tenPow exponent.toNat) = nearest at *
  have hlow := Nat.mul_lt_mul_of_pos_right (lowerMargin_lt hm) hscale
  have hhigh := Nat.mul_le_mul_right scale x.lowerMargin_le
  have hpoint : nearest * tenPow exponent.toNat * (4 * one) =
      4 * (nearest * (one * tenPow exponent.toNat)) := by
    rw [Nat.mul_comm one, ← Nat.mul_assoc nearest, Nat.mul_left_comm]
  rw [Nat.mul_assoc 4] at hlow
  rw [hpoint, Nat.sub_mul, Nat.add_mul, Nat.mul_assoc 4, upperMargin]
  generalize x.units * scale = centre at *
  generalize nearest * (one * tenPow exponent.toNat) = point at *
  split
  · omega
  · omega

theorem onGrid_ne_none (h : x.mantissa ≠ 0) : x.onGrid? (x.decimalExponent - 16) ≠ none := by
  have hnearest := nearest_readsBack h (step_lt_margin h)
  unfold onGrid?
  extract_lets numerator denominator below nearest other
  rw [if_pos hnearest]
  exact Option.some_ne_none _

/-- The shortest decimal reads back. -/
theorem shortest_readsBack (h : x.mantissa ≠ 0) :
    x.readsBack x.shortest.1 x.shortest.2 = true := by
  unfold shortest
  dsimp only
  cases hs : (List.range 17).findSome? fun (more : Nat) => x.onGrid? (x.decimalExponent - more) with
  | none => exact absurd (List.findSome?_eq_none_iff.1 hs 16 (by decide)) (onGrid_ne_none h)
  | some found =>
      obtain ⟨more, _, hf⟩ := List.exists_of_findSome?_eq_some hs
      exact onGrid_readsBack hf

/-! ## Reading a decimal -/

theorem Covers.lt {a d : Nat} (hd : 0 < d) (h : x.Covers a d) : a * one < twoPow 2098 * d := by
  obtain ⟨-, high, -⟩ := h.near
  have hm := Nat.mul_le_mul_right (d * twoPow x.shift) x.canonical.1
  have hle : ∀ m n, m ≤ n → twoPow m ≤ twoPow n := fun _ _ => Nat.pow_le_pow_right (by decide)
  have hs := hle _ _ x.canonical.2.1
  have hadd : ∀ m n, twoPow (m + n) = twoPow m * twoPow n := Nat.pow_add 2
  have hbound : twoPow 53 * (d * twoPow x.shift) ≤ twoPow 2098 * d := by
    calc twoPow 53 * (d * twoPow x.shift)
        ≤ twoPow 53 * (d * twoPow 2045) := Nat.mul_le_mul_left _ (Nat.mul_le_mul_left d hs)
      _ = twoPow 2098 * d := by
          rw [Nat.mul_comm d, ← Nat.mul_assoc, ← hadd]
  have hunit : 0 < d * twoPow x.shift := Nat.mul_pos hd (Nat.two_pow_pos _)
  rw [Nat.succ_mul] at hm
  generalize twoPow 2098 * d = top at *
  generalize twoPow 53 * (d * twoPow x.shift) = high at *
  generalize d * twoPow x.shift = unit at *
  omega

theorem Covers.pos {a d : Nat} (h : x.Covers a d) (hm : x.mantissa ≠ 0) : d ≤ 2 * (a * one) := by
  obtain ⟨low, -, -⟩ := h.near
  have hmantissa := Nat.le_mul_of_pos_left (d * twoPow x.shift) (Nat.pos_of_ne_zero hm)
  have hunit : d ≤ d * twoPow x.shift := Nat.le_mul_of_pos_right d (Nat.two_pow_pos _)
  omega

end Magnitude

theorem Binary64.ofScientific_eq {coefficient : Nat} {exponent : Int} (hpos : coefficient ≠ 0)
    (hlarge : ¬400 < exponent) (hsmall : ¬exponent + decimalWidth coefficient < -400)
    (negative : Bool) : ofScientific negative ⟨coefficient, exponent⟩ =
      ofRatio negative (coefficient * tenPow exponent.toNat) (tenPow (-exponent).toNat) := by
  unfold ofScientific
  rw [if_neg hpos, if_neg hlarge, if_neg hsmall]

theorem Binary64.ofRatio_eq {a d : Nat} {x : Magnitude} (h : Magnitude.ofRatio? a d = some x)
    (negative : Bool) : ofRatio negative a d = .finite negative x := by
  -- opened as a function, so that no quotient is evaluated to compare the two sides
  suffices hf : ∀ f, f = ofRatio → f negative a d = .finite negative x from hf ofRatio rfl
  intro f hf
  delta ofRatio at hf
  simp only [hf, h]

/-- A decimal that reads back as a magnitude is read as it, whatever its sign. -/
theorem Binary64.ofScientific_of_readsBack {x : Magnitude} (hm : x.mantissa ≠ 0)
    {coefficient : Nat} {exponent : Int} (h : x.readsBack coefficient exponent = true)
    (negative : Bool) : ofScientific negative ⟨coefficient, exponent⟩ = .finite negative x := by
  have hcovers := Magnitude.readsBack_iff_covers.1 h
  have hpos : coefficient ≠ 0 := by
    rintro rfl
    have hlow := hcovers.pos hm
    rw [Nat.zero_mul, Nat.zero_mul] at hlow
    exact absurd hlow (Nat.not_le.2 (Nat.pow_pos (by decide)))
  have hadd : ∀ m n, tenPow (m + n) = tenPow m * tenPow n := Nat.pow_add 10
  have hle : ∀ m n, m ≤ n → tenPow m ≤ tenPow n := fun _ _ => Nat.pow_le_pow_right (by decide)
  have hlarge : ¬400 < exponent := by
    intro he
    have hscale : 0 < tenPow (-exponent).toNat := Nat.pow_pos (by decide)
    have hhigh := hcovers.lt hscale
    have hbound : twoPow 2098 ≤ tenPow 400 * Magnitude.one := by decide +kernel
    have hpower := hle 400 exponent.toNat (by omega)
    have hwhole := Nat.le_mul_of_pos_left (tenPow exponent.toNat) (Nat.pos_of_ne_zero hpos)
    have hunits := Nat.mul_le_mul_right Magnitude.one (Nat.le_trans hpower hwhole)
    rw [show (-exponent).toNat = 0 by omega, tenPow_zero, Nat.mul_one] at hhigh
    exact Nat.lt_irrefl _ (Nat.lt_of_le_of_lt (Nat.le_trans hbound hunits) hhigh)
  have hsmall : ¬exponent + decimalWidth coefficient < -400 := by
    intro he
    have hlow := hcovers.pos hm
    have hone : 2 * Magnitude.one ≤ tenPow 400 := by decide +kernel
    have hten := Nat.lt_of_lt_of_le (Nat.mul_pos Nat.two_pos Magnitude.one_pos) hone
    have hpower : tenPow (decimalWidth coefficient) * tenPow 400 ≤ tenPow (-exponent).toNat := by
      rw [← hadd]
      exact hle _ _ (by omega)
    generalize tenPow 400 = bound at *
    have hwidth := Nat.mul_lt_mul_of_lt_of_le (lt_tenPow_width coefficient) hone hten
    rw [show exponent.toNat = 0 by omega, tenPow_zero, Nat.mul_one, Nat.mul_left_comm] at hlow
    exact Nat.lt_irrefl _ (Nat.lt_of_lt_of_le hwidth (Nat.le_trans hpower hlow))
  have hratio := Magnitude.ofRatio_of_covers (Nat.pow_pos (by decide)) hcovers
  exact (ofScientific_eq hpos hlarge hsmall negative).trans (ofRatio_eq hratio negative)

end TableRecords
