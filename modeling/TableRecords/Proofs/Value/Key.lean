import Mathlib
import TableRecords.Fields
import TableRecords.Proofs.Number.Rounding

/-! # Keys

Two values are the same key when they have the same key class: the exact number for whatever is a
number, and the value itself for text and bytes. What has no class is the same key as nothing, so
on values with a class sameness is an equivalence, and a field is found under each of its keys.
-/

namespace TableRecords

/-- What counts of a value that is used as a key. -/
inductive KeyClass where
  | null
  | text (s : String)
  | bytes (bytes : List UInt8)
  | number (q : ℚ)
  | infinite (negative : Bool)

namespace Quantity

def Proper : Quantity → Prop
  | finite _ denominator _ => 0 < denominator
  | infinite _ => True

def keyClass : Quantity → KeyClass
  | finite numerator denominator exponent =>
    .number ((numerator : ℚ) / denominator * 10 ^ exponent)
  | infinite negative => .infinite negative

theorem shiftsTo_iff {n m : Int} {places : Nat} :
    shiftsTo n m places = true ↔ n * 10 ^ places = m := by
  unfold shiftsTo tenPow
  split
  · rename_i h
    rw [h, Int.zero_mul, beq_iff_eq, eq_comm]
  · rename_i h
    rw [Bool.and_eq_true, decide_eq_true_eq, beq_iff_eq]
    refine ⟨fun hm => by simpa using hm.2, fun hm => ⟨?_, by simpa using hm⟩⟩
    have habs : m.natAbs = n.natAbs * 10 ^ places := by
      rw [← hm, Int.natAbs_mul, Int.natAbs_pow]
      rfl
    have hpos : 0 < n.natAbs := Int.natAbs_pos.2 h
    have hten : 10 ^ places ≤ m.natAbs := habs ▸ Nat.le_mul_of_pos_left _ hpos
    have htwo : 2 ^ places ≤ 10 ^ places := Nat.pow_le_pow_left (by decide) _
    have hzero : m.natAbs ≠ 0 := by
      have := Nat.pow_pos (n := places) (show 0 < 10 by decide)
      omega
    exact (Nat.le_log2 hzero).2 (Nat.le_trans htwo hten)

theorem shifted_eq_iff {n m e g : Int} {d f : Nat} (hd : 0 < d) (hf : 0 < f) (h : g ≤ e) :
    n * f * 10 ^ (e - g).toNat = m * d ↔ (n : ℚ) / d * 10 ^ e = m / f * 10 ^ g := by
  have hd' : (d : ℚ) ≠ 0 := Nat.cast_ne_zero.2 (Nat.ne_of_gt hd)
  have hf' : (f : ℚ) ≠ 0 := Nat.cast_ne_zero.2 (Nat.ne_of_gt hf)
  have hten : (10 : ℚ) ^ g ≠ 0 := zpow_ne_zero g (by norm_num)
  have hpower : (10 : ℚ) ^ e = 10 ^ (e - g).toNat * 10 ^ g := by
    rw [← zpow_natCast, ← zpow_add₀ (by norm_num), Int.toNat_of_nonneg (by omega), sub_add_cancel]
  rw [hpower, ← mul_assoc, mul_left_inj' hten, div_mul_eq_mul_div, div_eq_div_iff hd' hf',
    mul_right_comm]
  exact_mod_cast Iff.rfl

theorem same_iff {p q : Quantity} (hp : p.Proper) (hq : q.Proper) :
    p.same q = true ↔ p.keyClass = q.keyClass := by
  match p, q with
  | finite n d e, finite m f g =>
      simp only [keyClass, KeyClass.number.injEq, same]
      split
      · rename_i h
        rw [shiftsTo_iff, shifted_eq_iff hp hq h]
      · rename_i h
        rw [shiftsTo_iff, shifted_eq_iff hq hp (by omega), eq_comm]
  | infinite a, infinite b => simp [same, keyClass]
  | finite .., infinite _ => simp [same, keyClass]
  | infinite _, finite .. => simp [same, keyClass]

end Quantity

namespace Value

def keyClass : Value → Option KeyClass
  | null => some .null
  | text s => some (.text s)
  | blob bytes => some (.bytes bytes)
  | v => v.quantity?.map Quantity.keyClass

theorem proper_quantity {v : Value} {q : Quantity} (h : v.quantity? = some q) : q.Proper := by
  unfold quantity? at h
  split at h
  case h_3 => exact Option.some.inj h ▸ Magnitude.one_pos
  case h_7 => cases h
  all_goals
    cases h
    first
      | exact Nat.one_pos
      | exact trivial

theorem keyClass_of_quantity {v : Value} {q : Quantity} (h : v.quantity? = some q) :
    v.keyClass = some q.keyClass := by
  unfold keyClass
  split
  · cases h
  · cases h
  · cases h
  · rw [h, Option.map_some]

theorem class_cases {v : Value} {c : KeyClass} (h : v.keyClass = some c) :
    (∃ q, v.quantity? = some q ∧ c = q.keyClass) ∨
      match c with
      | .null => v = null
      | .text s => v = text s
      | .bytes bytes => v = blob bytes
      | _ => False := by
  unfold keyClass at h
  split at h
  · cases h
    exact Or.inr rfl
  · cases h
    exact Or.inr rfl
  · cases h
    exact Or.inr rfl
  · obtain ⟨q, hq, hc⟩ := Option.map_eq_some_iff.1 h
    exact Or.inl ⟨q, hq, hc.symm⟩

theorem same_of_quantity {v w : Value} {p q : Quantity} (hp : v.quantity? = some p)
    (hq : w.quantity? = some q) : v.same w = p.same q := by
  unfold same
  split
  · cases hp
  · cases hp
  · cases hp
  · rw [hp, hq]

/-- Values are the same key if they have the same class. -/
theorem same_iff {v w : Value} :
    v.same w = true ↔ ∃ c, v.keyClass = some c ∧ w.keyClass = some c := by
  constructor
  · intro h
    unfold same at h
    split at h
    · exact ⟨_, rfl, rfl⟩
    · exact ⟨_, rfl, by rw [beq_iff_eq.1 h]; rfl⟩
    · exact ⟨_, rfl, by rw [beq_iff_eq.1 h]; rfl⟩
    · split at h
      · rename_i p q hp hq
        have hclass := (Quantity.same_iff (proper_quantity hp) (proper_quantity hq)).1 h
        exact ⟨_, keyClass_of_quantity hp, hclass ▸ keyClass_of_quantity hq⟩
      · cases h
  · rintro ⟨c, hv, hw⟩
    -- classes of quantities are apart from those of values, so both are of one sort
    rcases class_cases hv with ⟨p, hp, hc⟩ | hv
    · rcases class_cases hw with ⟨q, hq, hc'⟩ | hw
      · rw [same_of_quantity hp hq, Quantity.same_iff (proper_quantity hp) (proper_quantity hq),
          ← hc, hc']
      · subst hc
        cases p <;> exact hw.elim
    · rcases class_cases hw with ⟨q, hq, hc'⟩ | hw
      · subst hc'
        cases q <;> exact hv.elim
      · cases c with
        | null => rw [hv, hw]; rfl
        | text s => rw [hv, hw]; exact beq_self_eq_true s
        | bytes bytes => rw [hv, hw]; exact beq_self_eq_true bytes
        | number q => exact hv.elim
        | infinite negative => exact hv.elim

theorem same_comm (v w : Value) : v.same w = w.same v := by
  rw [Bool.eq_iff_iff, same_iff, same_iff]
  exact exists_congr fun c => And.comm

/-- The same key is the same key as the same others. -/
theorem same_congr {v w : Value} (h : v.same w = true) (u : Value) : v.same u = w.same u := by
  obtain ⟨c, hv, hw⟩ := same_iff.1 h
  rw [Bool.eq_iff_iff, same_iff, same_iff, hv, hw]

theorem same_text_iff {v : Value} {s : String} : v.same (.text s) = true ↔ v = .text s := by
  refine ⟨fun h => ?_, fun h => by rw [h]; exact beq_self_eq_true s⟩
  obtain ⟨c, hv, hs⟩ := same_iff.1 h
  cases hs
  rcases class_cases hv with ⟨q, -, hc⟩ | hv
  · cases q <;> cases hc
  · exact hv

end Value

end TableRecords
