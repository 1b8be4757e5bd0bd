import Mathlib
import TableRecords.Proofs.Number.Rounding

/-! # The nearest number of 53 bits

What it means that a natural rounds to one with 53 significant bits: none is nearer, and if another
is as near, the mantissa is even. There is exactly one such number. It is computed from a quotient
rounded half to even, so it keeps the order of naturals, and it is the magnitude that an integer
becomes, unless it has more than 1024 bits.
-/

namespace TableRecords

section

variable {a b d q k : Nat}

theorem roundHalfEven_mul (hd : 0 < d) : roundHalfEven (q * d) d = q :=
  roundHalfEven_eq hd (by omega) (by omega) (by omega)

theorem roundHalfEven_mono (hd : 0 < d) (h : a ≤ b) : roundHalfEven a d ≤ roundHalfEven b d := by
  by_contra hlt
  have hnext := Nat.mul_le_mul_right d (Nat.lt_of_not_le hlt)
  rw [Nat.succ_mul] at hnext
  have ha := (roundHalfEven_near a hd).1
  have hb := (roundHalfEven_near b hd).2
  -- only equal quotients could be that far from what they round to
  obtain rfl : a = b := by omega
  exact hlt (Nat.le_refl _)

theorem le_roundHalfEven (hd : 0 < d) (h : q * d ≤ a) : q ≤ roundHalfEven a d := by
  rw [← roundHalfEven_mul (q := q) hd]
  exact roundHalfEven_mono hd h

theorem roundHalfEven_le (hd : 0 < d) (h : a ≤ q * d) : roundHalfEven a d ≤ q := by
  rw [← roundHalfEven_mul (q := q) hd]
  exact roundHalfEven_mono hd h

theorem roundHalfEven_scale (hk : 0 < k) :
    roundHalfEven (a * k) (d * k) = roundHalfEven a d := by
  unfold roundHalfEven
  simp only [Nat.mul_div_mul_right a d hk, Nat.mul_mod_mul_right, ← Nat.mul_assoc,
    Nat.mul_lt_mul_right hk]

/-- Of two naturals that are equally near the even one is taken. -/
theorem roundHalfEven_even (hd : 0 < d) (h : 2 * (roundHalfEven a d * d) = 2 * a + d ∨
    2 * a = 2 * (roundHalfEven a d * d) + d) : roundHalfEven a d % 2 = 0 := by
  have hsplit := Nat.div_add_mod' a d
  have hrest := Nat.mod_lt a hd
  have hnext : (a / d + 1) * d = a / d * d + d := by rw [Nat.add_mul, Nat.one_mul]
  unfold roundHalfEven at h ⊢
  dsimp only at h ⊢
  split_ifs at h ⊢
  · omega
  · omega
  · omega

/-- Among the multiples of the denominator none is nearer than the rounded quotient. -/
theorem roundHalfEven_nearest (a q : Nat) (hd : 0 < d) :
    Nat.dist a (roundHalfEven a d * d) ≤ Nat.dist a (q * d) := by
  have hnear := roundHalfEven_near a hd
  unfold Nat.dist
  rcases Nat.lt_trichotomy q (roundHalfEven a d) with h | rfl | h
  · have hnext := Nat.mul_le_mul_right d h
    rw [Nat.succ_mul] at hnext
    omega
  · omega
  · have hnext := Nat.mul_le_mul_right d h
    rw [Nat.succ_mul] at hnext
    omega

theorem roundHalfEven_even_of_dist (hd : 0 < d) (hne : q ≠ roundHalfEven a d)
    (h : Nat.dist a (q * d) = Nat.dist a (roundHalfEven a d * d)) :
    roundHalfEven a d % 2 = 0 := by
  refine roundHalfEven_even hd ?_
  have hnear := roundHalfEven_near a hd
  unfold Nat.dist at h
  rcases Nat.lt_or_gt_of_ne hne with hlt | hlt
  · have hnext := Nat.mul_le_mul_right d hlt
    rw [Nat.succ_mul] at hnext
    omega
  · have hnext := Nat.mul_le_mul_right d hlt
    rw [Nat.succ_mul] at hnext
    omega

end

/-- Whether a natural has at most 53 significant bits. -/
def IsShort (r : Nat) : Prop := ∃ m k, m < 2 ^ 53 ∧ r = m * 2 ^ k

/-- Whether a natural has 53 significant bits, the last of them zero. -/
def IsEven53 (r : Nat) : Prop := ∃ m k, 2 ^ 52 ≤ m ∧ m < 2 ^ 53 ∧ m % 2 = 0 ∧ r = m * 2 ^ k

/-- Whether a natural rounds to another: to the nearest with at most 53 significant bits, and to
the one with the even mantissa if two are equally near. -/
structure RoundsTo (n r : Nat) : Prop where
  short : IsShort r
  nearest : ∀ other, IsShort other → Nat.dist n r ≤ Nat.dist n other
  even : ∀ other, IsShort other → other ≠ r → Nat.dist n other = Nat.dist n r → IsEven53 r

/-- How many bits of a natural are beyond 53. -/
def excess (n : Nat) : Nat := n.log2 + 1 - 53

def rounded (n : Nat) : Nat := roundHalfEven n (2 ^ excess n) * 2 ^ excess n

section

variable {n m r other : Nat}

theorem lt_of_excess (n : Nat) : n < 2 ^ 53 * 2 ^ excess n :=
  calc n < 2 ^ (n.log2 + 1) := Nat.lt_log2_self
    _ ≤ 2 ^ (53 + excess n) := Nat.pow_le_pow_right (by decide) (by unfold excess; omega)
    _ = 2 ^ 53 * 2 ^ excess n := Nat.pow_add 2 53 _

theorem le_of_excess (h : 0 < excess n) : 2 ^ 52 * 2 ^ excess n ≤ n := by
  have hn : n ≠ 0 := by
    rintro rfl
    simp [excess] at h
  have hlog : 52 + excess n = n.log2 := by
    unfold excess at h ⊢
    omega
  rw [← Nat.pow_add, hlog]
  exact Nat.log2_self_le hn

theorem rounded_of_excess (h : excess n = 0) : rounded n = n := by
  have hone : roundHalfEven (n * 1) 1 = n := roundHalfEven_mul (by decide)
  rw [rounded, h]
  simpa using hone

theorem rounded_le (n : Nat) : rounded n ≤ 2 ^ 53 * 2 ^ excess n :=
  Nat.mul_le_mul_right _ (roundHalfEven_le (Nat.two_pow_pos _) (Nat.le_of_lt (lt_of_excess n)))

theorem le_rounded (h : 0 < excess n) : 2 ^ 52 * 2 ^ excess n ≤ rounded n :=
  Nat.mul_le_mul_right _ (le_roundHalfEven (Nat.two_pow_pos _) (le_of_excess h))

theorem rounded_mono (h : n ≤ m) : rounded n ≤ rounded m := by
  have hexcess : excess n ≤ excess m := by
    have hlog : n.log2 ≤ m.log2 := by
      rw [Nat.log2_eq_log_two, Nat.log2_eq_log_two]
      exact Nat.log_mono_right h
    unfold excess
    omega
  rcases Nat.eq_or_lt_of_le hexcess with heq | hlt
  · unfold rounded
    rw [← heq]
    exact Nat.mul_le_mul_right _ (roundHalfEven_mono (Nat.two_pow_pos _) h)
  · -- between the two lies the power of two at which the number of bits changes
    have hpower : 2 ^ (excess n + 1) ≤ 2 ^ excess m := Nat.pow_le_pow_right (by decide) hlt
    calc rounded n ≤ 2 ^ 53 * 2 ^ excess n := rounded_le n
      _ = 2 ^ 52 * 2 ^ (excess n + 1) := by rw [Nat.pow_succ]; ring
      _ ≤ 2 ^ 52 * 2 ^ excess m := Nat.mul_le_mul_left _ hpower
      _ ≤ rounded m := le_rounded (by omega)

theorem exists_mul_of_short {s : Nat} (h : IsShort other) (hle : 2 ^ 52 * 2 ^ s ≤ other) :
    ∃ q, other = q * 2 ^ s := by
  obtain ⟨m, k, hm, rfl⟩ := h
  have hk : s ≤ k := by
    by_contra hlt
    have hpower : 2 ^ (k + 1) ≤ 2 ^ s := Nat.pow_le_pow_right (by decide) (by omega)
    have hleft := Nat.mul_le_mul_left (2 ^ 52) hpower
    have hright := Nat.mul_lt_mul_of_pos_right hm (Nat.two_pow_pos k)
    rw [Nat.pow_succ] at hleft
    omega
  exact ⟨m * 2 ^ (k - s), by rw [Nat.mul_assoc, ← Nat.pow_add, Nat.sub_add_cancel hk]⟩

theorem short_rounded (n : Nat) : IsShort (rounded n) := by
  have hle : roundHalfEven n (2 ^ excess n) ≤ 2 ^ 53 :=
    roundHalfEven_le (Nat.two_pow_pos _) (Nat.le_of_lt (lt_of_excess n))
  rcases Nat.eq_or_lt_of_le hle with heq | hlt
  · exact ⟨2 ^ 52, excess n + 1, by decide, by rw [rounded, heq, Nat.pow_succ]; ring⟩
  · exact ⟨_, excess n, hlt, rfl⟩

/-- A number of at most 53 bits below the binade of another is no nearer than its least number. -/
theorem dist_lt_of_below (hn : 2 ^ 52 * 2 ^ excess n ≤ n) (h : other < 2 ^ 52 * 2 ^ excess n) :
    Nat.dist n (rounded n) < Nat.dist n other := by
  have hleast := roundHalfEven_nearest n (2 ^ 52) (Nat.two_pow_pos (excess n))
  rw [← rounded] at hleast
  unfold Nat.dist at hleast ⊢
  omega

theorem roundsTo_rounded (n : Nat) : RoundsTo n (rounded n) := by
  refine ⟨short_rounded n, fun other hshort => ?_, fun other hshort hne hdist => ?_⟩
  all_goals rcases Nat.eq_zero_or_pos (excess n) with hzero | hpos
  · rw [rounded_of_excess hzero, Nat.dist_self]
    exact Nat.zero_le _
  · by_cases hbelow : other < 2 ^ 52 * 2 ^ excess n
    · exact Nat.le_of_lt (dist_lt_of_below (le_of_excess hpos) hbelow)
    · obtain ⟨q, rfl⟩ := exists_mul_of_short hshort (Nat.le_of_not_lt hbelow)
      exact roundHalfEven_nearest n q (Nat.two_pow_pos _)
  · rw [rounded_of_excess hzero, Nat.dist_self] at hdist
    rw [rounded_of_excess hzero] at hne
    exact absurd (Nat.eq_of_dist_eq_zero hdist).symm hne
  · by_cases hbelow : other < 2 ^ 52 * 2 ^ excess n
    · exact absurd hdist (Nat.ne_of_gt (dist_lt_of_below (le_of_excess hpos) hbelow))
    · obtain ⟨q, rfl⟩ := exists_mul_of_short hshort (Nat.le_of_not_lt hbelow)
      have hq : q ≠ roundHalfEven n (2 ^ excess n) := by
        rintro rfl
        exact hne rfl
      have heven := roundHalfEven_even_of_dist (Nat.two_pow_pos _) hq hdist
      have hlow := le_roundHalfEven (Nat.two_pow_pos _) (le_of_excess hpos)
      have hhigh : roundHalfEven n (2 ^ excess n) ≤ 2 ^ 53 :=
        roundHalfEven_le (Nat.two_pow_pos _) (Nat.le_of_lt (lt_of_excess n))
      -- a mantissa that was rounded up to 54 bits is the least one of the next binade
      rcases Nat.eq_or_lt_of_le hhigh with heq | hlt
      · exact ⟨2 ^ 52, excess n + 1, by decide, by decide, by decide,
          by rw [rounded, heq, Nat.pow_succ]; ring⟩
      · exact ⟨_, excess n, hlow, hlt, heven, rfl⟩

theorem RoundsTo.not_lt {r' : Nat} (h : RoundsTo n r) (h' : RoundsTo n r') : ¬r < r' := by
  intro hlt
  have hdist := Nat.le_antisymm (h.nearest r' h'.short) (h'.nearest r h.short)
  obtain ⟨m, k, hm, hm', heven, rfl⟩ := h.even r' h'.short (Nat.ne_of_gt hlt) hdist.symm
  obtain ⟨l, j, hl, hl', heven', rfl⟩ := h'.even _ h.short (Nat.ne_of_lt hlt) hdist
  -- the number that follows the lower one is not beyond the higher one, or it would be nearer
  have hnext := h.nearest ((m + 1) * 2 ^ k) ⟨m + 1, k, by omega, rfl⟩
  have hle : l * 2 ^ j ≤ (m + 1) * 2 ^ k := by
    rw [Nat.add_mul, Nat.one_mul] at hnext ⊢
    have hpos := Nat.two_pow_pos k
    unfold Nat.dist at hnext hdist
    omega
  have hkj : k ≤ j := by
    by_contra hjk
    have hpower : 2 ^ (j + 1) ≤ 2 ^ k := Nat.pow_le_pow_right (by decide) (by omega)
    have hleft := Nat.mul_le_mul hm hpower
    have hright := Nat.mul_lt_mul_of_pos_right hl' (Nat.two_pow_pos j)
    rw [Nat.pow_succ] at hleft
    omega
  have hsplit : l * 2 ^ j = l * 2 ^ (j - k) * 2 ^ k := by
    rw [Nat.mul_assoc, ← Nat.pow_add, Nat.sub_add_cancel hkj]
  rw [hsplit] at hlt hle
  have hlow := Nat.lt_of_mul_lt_mul_right hlt
  have hhigh := Nat.le_of_mul_le_mul_right hle (Nat.two_pow_pos k)
  have hmod : l * 2 ^ (j - k) % 2 = 0 := by
    rw [Nat.mul_mod, heven', Nat.zero_mul]
  omega

/-- Every natural rounds to one number. -/
theorem roundsTo_iff : RoundsTo n r ↔ r = rounded n := by
  constructor
  · intro h
    have h' := roundsTo_rounded n
    exact Nat.le_antisymm (Nat.le_of_not_lt (h'.not_lt h)) (Nat.le_of_not_lt (h.not_lt h'))
  · rintro rfl
    exact roundsTo_rounded n

theorem rounded_of_short (h : IsShort n) : rounded n = n := by
  refine (roundsTo_iff.1 ⟨h, fun other _ => ?_, fun other _ hne hdist => ?_⟩).symm
  · rw [Nat.dist_self]
    exact Nat.zero_le _
  · rw [Nat.dist_self] at hdist
    exact absurd (Nat.eq_of_dist_eq_zero hdist).symm hne

end

/-! ## Magnitudes of integers -/

namespace Magnitude

theorem twoPow_carry (shift : Nat) : twoPow 53 * twoPow shift = twoPow 52 * twoPow (shift + 1) := by
  rw [twoPow_succ shift, twoPow_succ 52, Nat.mul_comm 2, Nat.mul_assoc]

theorem mul_twoPow_lt_iff {mantissa shift e : Nat} (low : twoPow 52 ≤ mantissa)
    (high : mantissa < twoPow 53) : mantissa * twoPow shift < twoPow 52 * twoPow e ↔ shift < e := by
  constructor
  · intro h
    by_contra hle
    exact Nat.not_lt.2 (Nat.mul_le_mul low 
      (Nat.pow_le_pow_right (by decide) (Nat.le_of_not_lt hle))) h
  · intro h
    calc mantissa * twoPow shift < twoPow 53 * twoPow shift :=
          Nat.mul_lt_mul_of_pos_right high (Nat.two_pow_pos _)
      _ = twoPow 52 * twoPow (shift + 1) := twoPow_carry shift
      _ ≤ twoPow 52 * twoPow e := Nat.mul_le_mul_left _ (Nat.pow_le_pow_right (by decide) h)

theorem ofParts_canonical {mantissa : Nat} (low : twoPow 52 ≤ mantissa)
    (high : mantissa < twoPow 53) (shift : Nat) :
    (∃ x, ofParts? mantissa shift = some x ∧ x.units = mantissa * twoPow shift ∧
      x.units < twoPow 52 * twoPow 2046) ∨
    ofParts? mantissa shift = none ∧ twoPow 52 * twoPow 2046 ≤ mantissa * twoPow shift := by
  by_cases hshift : shift ≤ 2045
  · have hlt : shift < 2046 := by omega
    exact Or.inl ⟨⟨mantissa, shift, high, hshift, Or.inr low⟩, dif_pos _, rfl,
      (mul_twoPow_lt_iff low high).2 hlt⟩
  · refine Or.inr ⟨?_, ?_⟩
    · rw [ofParts?, dif_neg fun h => hshift h.2.1, dif_neg fun h => hshift (by omega)]
    · refine Nat.le_of_not_lt fun hlt => hshift ?_
      have hbound := (mul_twoPow_lt_iff low high).1 hlt
      omega

theorem ofParts_rounded {mantissa : Nat} (low : twoPow 52 ≤ mantissa)
    (high : mantissa ≤ twoPow 53) (shift : Nat) :
    (∃ x, ofParts? mantissa shift = some x ∧ x.units = mantissa * twoPow shift ∧
      x.units < twoPow 52 * twoPow 2046) ∨
    ofParts? mantissa shift = none ∧ twoPow 52 * twoPow 2046 ≤ mantissa * twoPow shift := by
  rcases Nat.eq_or_lt_of_le high with rfl | hlt
  · have hcarry : ofParts? (twoPow 53) shift = ofParts? (twoPow 52) (shift + 1) := by
      have hleast : twoPow 52 < twoPow 53 := by decide
      by_cases hshift : shift + 1 ≤ 2045
      · rw [ofParts?, dif_neg fun h => Nat.lt_irrefl _ h.1, dif_pos ⟨rfl, hshift⟩, ofParts?,
          dif_pos ⟨hleast, hshift, Or.inr (Nat.le_refl _)⟩]
      · rw [ofParts?, dif_neg fun h => Nat.lt_irrefl _ h.1, dif_neg fun h => hshift h.2, ofParts?,
          dif_neg fun h => hshift h.2.1, dif_neg fun h => Nat.ne_of_lt hleast h.1]
    rw [hcarry, twoPow_carry shift]
    exact ofParts_canonical (Nat.le_refl _) (by decide) _
  · exact ofParts_canonical low hlt shift

end Magnitude

/-- The least power of two that no magnitude reaches. -/
def overflow : Nat := twoPow 1024

namespace Magnitude

theorem one_mul_overflow : overflow * one = twoPow 52 * twoPow 2046 := by
  have hadd : ∀ m n, twoPow (m + n) = twoPow m * twoPow n := Nat.pow_add 2
  unfold overflow one
  rw [← hadd, ← hadd]

/-- An integer of more than 53 bits becomes the magnitude that it rounds to, unless that is beyond
all magnitudes. -/
theorem ofRatio_rounded {n : Nat} (h : 2 ^ 53 ≤ n) :
    (∃ x, ofRatio? n 1 = some x ∧ x.units = rounded n * one ∧ rounded n < overflow) ∨
      ofRatio? n 1 = none ∧ overflow ≤ rounded n := by
  have hpos : 0 < excess n := by
    by_contra hzero
    have hlt := lt_of_excess n
    rw [Nat.eq_zero_of_not_pos hzero] at hlt
    omega
  have hsum : ∀ m k, twoPow (m + k) = 2 ^ m * twoPow k := Nat.pow_add 2
  have hadd : twoPow (excess n + 1074) = 2 ^ excess n * one := hsum _ 1074
  have hscale : ∀ p, p * (1 * twoPow (excess n + 1074)) = p * 2 ^ excess n * one := by
    intro p
    rw [Nat.one_mul, hadd, ← Nat.mul_assoc]
  have hshift : (n * one / 1).log2 + 1 - 53 = excess n + 1074 := by
    refine shift_eq (by decide) (Or.inr ?_) ?_
    · rw [hscale]
      exact Nat.mul_le_mul_right _ (le_of_excess hpos)
    · rw [hscale]
      exact Nat.mul_lt_mul_of_pos_right (lt_of_excess n) one_pos
  have hround : roundHalfEven (n * one) (1 * twoPow (excess n + 1074)) =
      roundHalfEven n (2 ^ excess n) := by
    rw [Nat.one_mul, hadd]
    exact roundHalfEven_scale one_pos
  have hunits : roundHalfEven n (2 ^ excess n) * twoPow (excess n + 1074) = rounded n * one := by
    rw [← Nat.one_mul (twoPow (excess n + 1074)), hscale]
    rfl
  have hparts := ofParts_rounded (le_roundHalfEven (Nat.two_pow_pos _) (le_of_excess hpos))
    (roundHalfEven_le (Nat.two_pow_pos _) (Nat.le_of_lt (lt_of_excess n))) (excess n + 1074)
  rw [hunits, ← one_mul_overflow] at hparts
  have hratio : ofRatio? n 1 = ofParts? (roundHalfEven n (2 ^ excess n)) (excess n + 1074) := by
    unfold ofRatio?
    dsimp only
    rw [hshift, hround]
  rw [hratio]
  rcases hparts with ⟨x, hx, hvalue, hlt⟩ | ⟨hnone, hle⟩
  · rw [hvalue] at hlt
    exact Or.inl ⟨x, hx, hvalue, Nat.lt_of_mul_lt_mul_right hlt⟩
  · exact Or.inr ⟨hnone, Nat.le_of_mul_le_mul_right hle one_pos⟩

end Magnitude

end TableRecords
