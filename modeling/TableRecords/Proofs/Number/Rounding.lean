import Mathlib
import TableRecords.Number.Shortest

/-! # Rounding

The quotients that round to a magnitude fill an interval around it. A quotient of naturals is
rounded to the magnitude whose interval it lies in, however the quotient is written.
-/

namespace TableRecords

/-- A natural within half a unit of a quotient is what the quotient rounds to, if it is even or
lies nearer than that. -/
theorem roundHalfEven_eq {a d n : Nat} (hd : 0 < d) (low : 2 * (n * d) ≤ 2 * a + d)
    (high : 2 * a ≤ 2 * (n * d) + d)
    (ties : n % 2 = 1 → 2 * (n * d) < 2 * a + d ∧ 2 * a < 2 * (n * d) + d) :
    roundHalfEven a d = n := by
  have hsplit := Nat.div_add_mod' a d
  have hrest := Nat.mod_lt a hd
  have hlow : a / d ≤ n := by
    by_contra h
    have hmul := Nat.mul_le_mul_right d (show n + 1 ≤ a / d by omega)
    rw [Nat.add_mul] at hmul
    omega
  have hhigh : n ≤ a / d + 1 := by
    by_contra h
    have hmul := Nat.mul_le_mul_right d (show a / d + 2 ≤ n by omega)
    rw [Nat.add_mul] at hmul
    omega
  unfold roundHalfEven
  dsimp only
  rcases Nat.eq_or_lt_of_le hlow with rfl | hlt
  · split_ifs <;> omega
  · obtain rfl : n = a / d + 1 := by omega
    rw [Nat.add_mul] at low high ties
    split_ifs <;> omega

/-- A rounded quotient is within half a unit of the quotient. -/
theorem roundHalfEven_near (a : Nat) {d : Nat} (hd : 0 < d) :
    2 * (roundHalfEven a d * d) ≤ 2 * a + d ∧ 2 * a ≤ 2 * (roundHalfEven a d * d) + d := by
  have hsplit := Nat.div_add_mod' a d
  have hrest := Nat.mod_lt a hd
  have hnext : (a / d + 1) * d = a / d * d + d := by rw [Nat.add_mul, Nat.one_mul]
  unfold roundHalfEven
  dsimp only
  split_ifs with hbelow habove
  · omega
  · rw [hnext]
    omega
  · rcases Nat.mod_two_eq_zero_or_one (a / d) with h | h
    · rw [h, Nat.add_zero]
      omega
    · rw [h, hnext]
      omega

namespace Magnitude

theorem one_pos : 0 < one := by
  have hpos : ∀ n, 0 < twoPow n := fun _ => Nat.two_pow_pos _
  exact hpos 1074

/-- Whether a quotient lies in the interval of what rounds to the magnitude, in quarter units. The
ends belong to it when the mantissa is even. -/
def Covers (x : Magnitude) (numerator denominator : Nat) : Prop :=
  let low := (4 * x.units - x.lowerMargin) * denominator
  let point := numerator * (4 * one)
  let high := (4 * x.units + x.upperMargin) * denominator
  if x.mantissa % 2 = 0 then low ≤ point ∧ point ≤ high else low < point ∧ point < high

variable {x : Magnitude} {a b c d : Nat}

theorem covers_scale {k : Nat} (hk : 0 < k) : x.Covers (a * k) (b * k) ↔ x.Covers a b := by
  have hends : ∀ p, p * (b * k) = p * b * k := fun p => (Nat.mul_assoc p b k).symm
  have hpoint : a * k * (4 * one) = a * (4 * one) * k := Nat.mul_right_comm a k (4 * one)
  unfold Covers
  simp only [hends, hpoint, Nat.mul_lt_mul_right hk, Nat.mul_le_mul_right_iff hk]

theorem covers_congr (hb : 0 < b) (hd : 0 < d) (h : a * d = c * b) :
    x.Covers a b ↔ x.Covers c d := by
  rw [← covers_scale hd, h, Nat.mul_comm b d, covers_scale hb]

/-- The shift that rounding starts from is the one that leaves the quotient a whole mantissa. -/
theorem shift_eq {n s : Nat} (hd : 0 < d) (low : s = 0 ∨ twoPow 52 * (d * twoPow s) ≤ n)
    (high : n < twoPow 53 * (d * twoPow s)) : (n / d).log2 + 1 - 53 = s := by
  have hbelow : n / d < 2 ^ (53 + s) := by
    rw [Nat.div_lt_iff_lt_mul hd, Nat.pow_add, Nat.mul_right_comm, Nat.mul_assoc]
    exact high
  have habove : s = 0 ∨ 2 ^ (52 + s) ≤ n / d := by
    refine low.imp_right fun h => ?_
    rw [Nat.le_div_iff_mul_le hd, Nat.pow_add, Nat.mul_right_comm, Nat.mul_assoc]
    exact h
  by_cases hz : n / d = 0
  · have hpos := Nat.two_pow_pos (52 + s)
    have hs : s = 0 := habove.resolve_right (by omega)
    simp [hz, hs]
  · have hlog := (Nat.log2_lt hz).2 hbelow
    rcases habove with rfl | habove
    · omega
    · have hlog' := (Nat.le_log2 hz).2 habove
      omega

theorem ofParts?_self (x : Magnitude) : ofParts? x.mantissa x.shift = some x := by
  rw [ofParts?, dif_pos x.canonical]

theorem ofParts?_carry (hs : 0 < x.shift) (hm : x.mantissa = twoPow 52) :
    ofParts? (twoPow 53) (x.shift - 1) = some x := by
  obtain ⟨mantissa, shift, canonical⟩ := x
  obtain ⟨s, rfl⟩ := Nat.exists_eq_succ_of_ne_zero (Nat.pos_iff_ne_zero.1 hs)
  cases hm
  rw [ofParts?, dif_neg (fun h => Nat.lt_irrefl _ h.1), dif_pos ⟨rfl, canonical.2.1⟩]
  rfl

theorem lowerMargin_le (x : Magnitude) : x.lowerMargin ≤ 2 * twoPow x.shift := by
  unfold lowerMargin
  split <;> omega

theorem Covers.near (h : x.Covers a d) :
    2 * (x.mantissa * (d * twoPow x.shift)) ≤ 2 * (a * one) + d * twoPow x.shift ∧
      2 * (a * one) ≤ 2 * (x.mantissa * (d * twoPow x.shift)) + d * twoPow x.shift ∧
      (x.mantissa % 2 = 1 →
        2 * (x.mantissa * (d * twoPow x.shift)) < 2 * (a * one) + d * twoPow x.shift ∧
        2 * (a * one) < 2 * (x.mantissa * (d * twoPow x.shift)) + d * twoPow x.shift) := by
  have hmargin := Nat.mul_le_mul_right d (lowerMargin_le x)
  have hpoint : a * (4 * one) = 4 * (a * one) := Nat.mul_left_comm a 4 one
  have hunits : 4 * x.units * d = 4 * (x.mantissa * (d * twoPow x.shift)) := by
    unfold units
    ac_rfl
  have hhalf : 2 * twoPow x.shift * d = 2 * (d * twoPow x.shift) := by ac_rfl
  unfold Covers upperMargin at h
  dsimp only at h
  rw [Nat.sub_mul, Nat.add_mul, hpoint, hunits, hhalf] at h
  rw [hhalf] at hmargin
  generalize a * one = point at *
  generalize d * twoPow x.shift = unit at *
  generalize x.mantissa * unit = centre at *
  split at h
  · omega
  · omega

/-- Below the least mantissa of a binade the interval is half as wide. -/
theorem Covers.near_power (h : x.Covers a d) (hs : 0 < x.shift) (hm : x.mantissa = twoPow 52) :
    2 * (twoPow 53 * (d * twoPow (x.shift - 1))) ≤ 2 * (a * one) + d * twoPow (x.shift - 1) := by
  obtain ⟨s, hs⟩ := Nat.exists_eq_succ_of_ne_zero (Nat.pos_iff_ne_zero.1 hs)
  have hpoint : a * (4 * one) = 4 * (a * one) := Nat.mul_left_comm a 4 one
  have heven : x.mantissa % 2 = 0 := by rw [hm]; decide
  have hmargin : x.lowerMargin = 2 * twoPow s := by
    rw [lowerMargin, if_pos ⟨hm, by omega⟩, hs, twoPow_succ]
  have hunits : 4 * x.units * d = 4 * (twoPow 53 * (d * twoPow s)) := by
    have hcarry : twoPow 53 = 2 * twoPow 52 := twoPow_succ 52
    rw [units, hm, hs, twoPow_succ s, hcarry]
    generalize twoPow 52 = least
    ac_rfl
  have hhalf : 2 * twoPow s * d = 2 * (d * twoPow s) := by ac_rfl
  unfold Covers at h
  rw [if_pos heven, Nat.sub_mul, hmargin, hpoint, hunits, hhalf] at h
  have hlow := h.1
  rw [hs, Nat.succ_sub_one]
  generalize twoPow 53 * (d * twoPow s) = centre at *
  generalize a * one = point at *
  omega

theorem ofRatio_of_carry (hd : 0 < d) (hs : 0 < x.shift) (hm : x.mantissa = twoPow 52)
    (near : 2 * (twoPow 53 * (d * twoPow (x.shift - 1))) ≤
      2 * (a * one) + d * twoPow (x.shift - 1))
    (below : a * one < twoPow 53 * (d * twoPow (x.shift - 1))) : ofRatio? a d = some x := by
  have hunit : 0 < d * twoPow (x.shift - 1) := Nat.mul_pos hd (Nat.two_pow_pos _)
  have hleast : twoPow 52 * (d * twoPow (x.shift - 1)) ≤ a * one := by
    have hcarry : twoPow 53 = 2 * twoPow 52 := twoPow_succ 52
    have hle : d * twoPow (x.shift - 1) ≤ twoPow 52 * (d * twoPow (x.shift - 1)) :=
      Nat.le_mul_of_pos_left _ (Nat.two_pow_pos 52)
    rw [hcarry, Nat.mul_assoc] at near
    omega
  have heven : twoPow 53 % 2 = 0 := by decide
  have hround := roundHalfEven_eq hunit near (by omega) (by omega)
  unfold ofRatio?
  dsimp only
  rw [shift_eq hd (Or.inr hleast) below, hround, ofParts?_carry hs hm]

/-- A quotient rounds to the magnitude that covers it. -/
theorem ofRatio_of_covers (hd : 0 < d) (h : x.Covers a d) : ofRatio? a d = some x := by
  obtain ⟨low, high, ties⟩ := h.near
  have hunit : 0 < d * twoPow x.shift := Nat.mul_pos hd (Nat.two_pow_pos _)
  by_cases hwhole : x.shift = 0 ∨ twoPow 52 * (d * twoPow x.shift) ≤ a * one
  · have hbound : a * one < twoPow 53 * (d * twoPow x.shift) := by
      have hnext := Nat.mul_le_mul_right (d * twoPow x.shift) x.canonical.1
      rw [Nat.succ_mul] at hnext
      omega
    unfold ofRatio?
    dsimp only
    rw [shift_eq hd hwhole hbound, roundHalfEven_eq hunit low high ties, ofParts?_self]
  · -- the quotient lies below the binade of the magnitude, so the mantissa is the least
    rw [not_or, Nat.not_le] at hwhole
    obtain ⟨hs, hbelow⟩ := hwhole
    have hm : x.mantissa = twoPow 52 := by
      refine Nat.le_antisymm ?_ (x.canonical.2.2.resolve_left hs)
      by_contra hlarge
      have hnext := Nat.mul_le_mul_right (d * twoPow x.shift) (Nat.lt_of_not_le hlarge)
      rw [Nat.succ_mul] at hnext
      omega
    have hs := Nat.pos_of_ne_zero hs
    refine ofRatio_of_carry hd hs hm (h.near_power hs hm) ?_
    have hdouble : d * twoPow x.shift = 2 * (d * twoPow (x.shift - 1)) := by
      rw [← Nat.mul_left_comm, ← twoPow_succ, Nat.sub_add_cancel hs]
    have hcarry : twoPow 53 = 2 * twoPow 52 := twoPow_succ 52
    rw [hcarry, Nat.mul_assoc, Nat.mul_left_comm, ← hdouble]
    exact hbelow

end Magnitude

end TableRecords
