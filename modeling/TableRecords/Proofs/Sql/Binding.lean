import Mathlib
import TableRecords.Proofs.Number.Nearest
import TableRecords.Proofs.Sql.Parameters

/-! # The order of bound integers

An integer of 64 bits is bound as it is, and one beyond them as the binary64 number that it rounds
to, or as an infinite one. Whatever way an integer goes, the numbers that are bound are in the order
of the integers.
-/

namespace TableRecords

/-- The number that a binary64 number stands for, the infinite ones included. -/
noncomputable def Binary64.number? : Binary64 → Option EReal
  | .nan => none
  | .infinite negative => some (if negative then ⊥ else ⊤)
  | .finite negative x =>
    some (((if negative then -1 else 1) * (x.mantissa * 2 ^ ((x.shift : ℤ) - 1074)) : ℝ) : EReal)

noncomputable def Value.number? : Value → Option EReal
  | .int n => some ((n : ℝ) : EReal)
  | .real x => x.number?
  | _ => none

/-- Whether a number is what an integer is bound as. -/
def BoundAs (n : ℤ) (x : EReal) : Prop := (bindable (.int n)).number? = some x

theorem cast_twoPow (k : Nat) : ((twoPow k : ℕ) : ℝ) = 2 ^ k := Nat.cast_pow 2 k

theorem Magnitude.number_of_units {x : Magnitude} {r : Nat} (h : x.units = r * one) :
    (x.mantissa : ℝ) * 2 ^ ((x.shift : ℤ) - 1074) = r := by
  have hunits : (x.mantissa : ℝ) * 2 ^ x.shift = r * 2 ^ 1074 := by
    rw [← cast_twoPow, ← cast_twoPow, ← Nat.cast_mul, ← Nat.cast_mul]
    exact congrArg Nat.cast h
  rw [zpow_sub₀ two_ne_zero, zpow_natCast, ← mul_div_assoc, hunits]
  exact mul_div_cancel_right₀ _ (pow_ne_zero _ two_ne_zero)

/-- The number that a natural beyond 64 bits becomes. -/
noncomputable def extent (n : Nat) : EReal :=
  if rounded n < overflow then ((rounded n : ℝ) : EReal) else ⊤

noncomputable def boundNumber (n : ℤ) : EReal :=
  if fitsInt64 n then ((n : ℝ) : EReal)
  else if n < 0 then -extent n.natAbs else extent n.natAbs

theorem inInt64_iff {n : ℤ} : InInt64 n ↔ -2 ^ 63 ≤ n ∧ n ≤ 2 ^ 63 - 1 := by
  unfold InInt64 int64Min int64Max
  omega

theorem boundNumber_of_in {n : ℤ} (h : InInt64 n) : boundNumber n = ((n : ℝ) : EReal) :=
  if_pos (fitsInt64_iff.2 h)

theorem boundNumber_of_above {n : ℤ} (h : 2 ^ 63 - 1 < n) : boundNumber n = extent n.natAbs := by
  have hfits : ¬fitsInt64 n = true := by
    rw [fitsInt64_iff, inInt64_iff]
    omega
  rw [boundNumber, if_neg hfits, if_neg (by omega)]

theorem boundNumber_of_below {n : ℤ} (h : n < -2 ^ 63) : boundNumber n = -extent n.natAbs := by
  have hfits : ¬fitsInt64 n = true := by
    rw [fitsInt64_iff, inInt64_iff]
    omega
  rw [boundNumber, if_neg hfits, if_pos (by omega)]

theorem range_cases (n : ℤ) : n < -2 ^ 63 ∨ InInt64 n ∨ 2 ^ 63 - 1 < n := by
  rw [inInt64_iff]
  omega

/-- Beyond the range the number that is bound is the one that rounding to binary64 comes to. -/
theorem number_ofInt {n : ℤ} (h : 2 ^ 53 ≤ n.natAbs) :
    (Binary64.ofInt n).number? = some (if n < 0 then -extent n.natAbs else extent n.natAbs) := by
  rw [Binary64.ofInt, Binary64.ofInt?]
  rcases Magnitude.ofRatio_rounded h with ⟨x, hx, hunits, hlt⟩ | ⟨hnone, hle⟩
  · rw [hx, extent, if_pos hlt, Option.map_some, Option.getD_some, Binary64.number?,
      Magnitude.number_of_units hunits]
    by_cases hneg : n < 0
    · simp [hneg]
    · simp [hneg]
  · rw [hnone, extent, if_neg (Nat.not_lt.2 hle), Option.map_none, Option.getD_none,
      Binary64.number?]
    by_cases hneg : n < 0
    · simp [hneg]
    · simp [hneg]

theorem boundAs_boundNumber (n : ℤ) : BoundAs n (boundNumber n) := by
  by_cases hfits : fitsInt64 n = true
  · have hbound : bindable (.int n) = .int n := if_pos hfits
    rw [BoundAs, hbound, boundNumber, if_pos hfits]
    rfl
  · have hbound : bindable (.int n) = .real (.ofInt n) := if_neg hfits
    have hlarge : 2 ^ 53 ≤ n.natAbs := by
      rw [fitsInt64_iff, inInt64_iff] at hfits
      omega
    rw [BoundAs, hbound, boundNumber, if_neg hfits]
    exact number_ofInt hlarge

theorem boundAs_iff {n : ℤ} {x : EReal} : BoundAs n x ↔ x = boundNumber n := by
  constructor
  · intro h
    exact (Option.some.inj ((boundAs_boundNumber n).symm.trans h)).symm
  · rintro rfl
    exact boundAs_boundNumber n

theorem extent_mono {n m : Nat} (h : n ≤ m) : extent n ≤ extent m := by
  have hrounded := rounded_mono h
  unfold extent
  by_cases hm : rounded m < overflow
  · rw [if_pos hm, if_pos (Nat.lt_of_le_of_lt hrounded hm)]
    exact EReal.coe_le_coe_iff.2 (Nat.cast_le.2 hrounded)
  · rw [if_neg hm]
    exact le_top

theorem rounded_range : rounded (2 ^ 63) = 2 ^ 63 :=
  rounded_of_short ⟨1, 63, by decide, by decide⟩

theorem range_lt_overflow : 2 ^ 63 < overflow := by decide +kernel

/-- Rounding does not lead back into the range. -/
theorem le_extent {n : Nat} (h : 2 ^ 63 ≤ n) : ((2 ^ 63 : ℝ) : EReal) ≤ extent n := by
  have hextent : extent (2 ^ 63) = ((2 ^ 63 : ℝ) : EReal) := by
    rw [extent, rounded_range, if_pos range_lt_overflow, Nat.cast_pow, Nat.cast_ofNat]
  rw [← hextent]
  exact extent_mono h

theorem boundNumber_below_le {n : ℤ} (h : n < -2 ^ 63) :
    boundNumber n ≤ ((-2 ^ 63 : ℝ) : EReal) := by
  rw [boundNumber_of_below h, EReal.coe_neg]
  exact EReal.neg_le_neg_iff.2 (le_extent (by omega))

theorem le_boundNumber_above {n : ℤ} (h : 2 ^ 63 - 1 < n) :
    ((2 ^ 63 : ℝ) : EReal) ≤ boundNumber n := by
  rw [boundNumber_of_above h]
  exact le_extent (by omega)

theorem cast_le_of_le {n : ℤ} (h : n ≤ 2 ^ 63) : ((n : ℝ) : EReal) ≤ ((2 ^ 63 : ℝ) : EReal) :=
  EReal.coe_le_coe_iff.2 (by exact_mod_cast h)

theorem le_cast_of_le {n : ℤ} (h : -2 ^ 63 ≤ n) : ((-2 ^ 63 : ℝ) : EReal) ≤ ((n : ℝ) : EReal) :=
  EReal.coe_le_coe_iff.2 (by exact_mod_cast h)

theorem boundNumber_mono {n m : ℤ} (h : n ≤ m) : boundNumber n ≤ boundNumber m := by
  rcases range_cases n with hn | hn | hn
  · rcases range_cases m with hm | hm | hm
    · rw [boundNumber_of_below hn, boundNumber_of_below hm]
      exact EReal.neg_le_neg_iff.2 (extent_mono (by omega))
    · rw [boundNumber_of_in hm]
      exact (boundNumber_below_le hn).trans (le_cast_of_le (inInt64_iff.1 hm).1)
    · refine (boundNumber_below_le hn).trans (le_trans ?_ (le_boundNumber_above hm))
      exact EReal.coe_le_coe_iff.2 (by norm_num)
  · rcases range_cases m with hm | hm | hm
    · rw [inInt64_iff] at hn
      omega
    · rw [boundNumber_of_in hn, boundNumber_of_in hm]
      exact EReal.coe_le_coe_iff.2 (Int.cast_le.2 h)
    · rw [boundNumber_of_in hn]
      rw [inInt64_iff] at hn
      exact (cast_le_of_le (by omega)).trans (le_boundNumber_above hm)
  · rw [boundNumber_of_above hn, boundNumber_of_above (show 2 ^ 63 - 1 < m by omega)]
    exact extent_mono (by omega)

theorem extent_eq_top {n : Nat} : extent n = ⊤ ↔ overflow ≤ rounded n := by
  unfold extent
  by_cases h : rounded n < overflow
  · rw [if_pos h]
    exact iff_of_false (EReal.coe_ne_top _) (Nat.not_le.2 h)
  · rw [if_neg h]
    exact iff_of_true rfl (Nat.le_of_not_lt h)

theorem extent_ne_bot (n : Nat) : extent n ≠ ⊥ := by
  unfold extent
  split
  · exact EReal.coe_ne_bot _
  · exact top_ne_bot

theorem rounded_lt_overflow {n : ℤ} (h : InInt64 n) : rounded n.natAbs < overflow := by
  rw [inInt64_iff] at h
  have hle : rounded n.natAbs ≤ rounded (2 ^ 63) := rounded_mono (by omega)
  rw [rounded_range] at hle
  exact Nat.lt_of_le_of_lt hle range_lt_overflow

theorem boundNumber_eq_top {n : ℤ} :
    boundNumber n = ⊤ ↔ 0 < n ∧ overflow ≤ rounded n.natAbs := by
  rcases range_cases n with hn | hn | hn
  · rw [boundNumber_of_below hn, EReal.neg_eq_top_iff]
    exact iff_of_false (extent_ne_bot _) fun h => by omega
  · rw [boundNumber_of_in hn]
    exact iff_of_false (EReal.coe_ne_top _) fun h => Nat.not_lt.2 h.2 (rounded_lt_overflow hn)
  · rw [boundNumber_of_above hn, extent_eq_top]
    exact ⟨fun h => ⟨by omega, h⟩, fun h => h.2⟩

theorem boundNumber_eq_bot {n : ℤ} :
    boundNumber n = ⊥ ↔ n < 0 ∧ overflow ≤ rounded n.natAbs := by
  rcases range_cases n with hn | hn | hn
  · rw [boundNumber_of_below hn, EReal.neg_eq_bot_iff, extent_eq_top]
    exact ⟨fun h => ⟨by omega, h⟩, fun h => h.2⟩
  · rw [boundNumber_of_in hn]
    exact iff_of_false (EReal.coe_ne_bot _) fun h => Nat.not_lt.2 h.2 (rounded_lt_overflow hn)
  · rw [boundNumber_of_above hn]
    exact iff_of_false (extent_ne_bot _) fun h => by omega

theorem boundNumber_of_finite {n : ℤ} (hout : n < -2 ^ 63 ∨ 2 ^ 63 - 1 < n)
    (h : rounded n.natAbs < overflow) :
    boundNumber n = ((n.sign * rounded n.natAbs : ℝ) : EReal) := by
  rcases hout with hn | hn
  · rw [boundNumber_of_below hn, extent, if_pos h, Int.sign_eq_neg_one_of_neg (by omega),
      Int.cast_neg, Int.cast_one, neg_one_mul, EReal.coe_neg]
  · rw [boundNumber_of_above hn, extent, if_pos h, Int.sign_eq_one_of_pos (by omega),
      Int.cast_one, one_mul]

/-! ## The law of bound integers -/

/-- What is so of an integer that is bound. -/
structure BindingLaw (n : ℤ) : Prop where
  bound : ∃ x, BoundAs n x
  ordered : ∀ m x y, n ≤ m → BoundAs n x → BoundAs m y → x ≤ y
  unchanged : -2 ^ 63 ≤ n → n ≤ 2 ^ 63 - 1 → bindable (.int n) = .int n
  above : 2 ^ 63 - 1 < n → ∀ x, BoundAs n x → ∀ m : ℤ, m ≤ 2 ^ 63 - 1 → ((m : ℝ) : EReal) < x
  below : n < -2 ^ 63 → ∀ x, BoundAs n x → x ≤ ((-2 ^ 63 : ℝ) : EReal)
  negated : n < -2 ^ 63 ∨ 2 ^ 63 - 1 < n → -n < -2 ^ 63 ∨ 2 ^ 63 - 1 < -n →
    ∀ x, BoundAs n x → BoundAs (-n) (-x)
  /-- Beyond the range an integer is rounded, and there is one number that it rounds to. -/
  rounded : n < -2 ^ 63 ∨ 2 ^ 63 - 1 < n → ∃ r, (∀ other, RoundsTo n.natAbs other ↔ other = r) ∧
    (r < overflow → BoundAs n ((n.sign * r : ℝ) : EReal))
  infinite : ∀ r, RoundsTo n.natAbs r →
    (BoundAs n ⊤ ↔ 0 < n ∧ overflow ≤ r) ∧ (BoundAs n ⊥ ↔ n < 0 ∧ overflow ≤ r)
  again : bindable (bindable (.int n)) = bindable (.int n)

/-- Every integer is bound as a number, in the order of the integers. -/
theorem bound_in_order (n : ℤ) : BindingLaw n where
  bound := ⟨_, boundAs_boundNumber n⟩
  ordered m x y h hx hy := by
    rw [boundAs_iff.1 hx, boundAs_iff.1 hy]
    exact boundNumber_mono h
  unchanged hlow hhigh := if_pos (fitsInt64_iff.2 (inInt64_iff.2 ⟨hlow, hhigh⟩))
  above h x hx m hm := by
    rw [boundAs_iff.1 hx]
    refine lt_of_lt_of_le ?_ (le_boundNumber_above h)
    have hlt : m < 2 ^ 63 := by omega
    exact EReal.coe_lt_coe_iff.2 (by exact_mod_cast hlt)
  below h x hx := by
    rw [boundAs_iff.1 hx]
    exact boundNumber_below_le h
  negated h h' x hx := by
    rw [boundAs_iff] at hx ⊢
    rcases h with h | h
    · rw [hx, boundNumber_of_below h, boundNumber_of_above (by omega), Int.natAbs_neg, neg_neg]
    · rw [hx, boundNumber_of_above h, boundNumber_of_below (by omega), Int.natAbs_neg]
  rounded h := ⟨rounded n.natAbs, fun _ => roundsTo_iff, fun hlt =>
    boundAs_iff.2 (boundNumber_of_finite h hlt).symm⟩
  infinite r hr := by
    obtain rfl := roundsTo_iff.1 hr
    rw [boundAs_iff, boundAs_iff, eq_comm, boundNumber_eq_top, eq_comm, boundNumber_eq_bot]
    exact ⟨Iff.rfl, Iff.rfl⟩
  again := bindable_bindable (.int n)

end TableRecords
