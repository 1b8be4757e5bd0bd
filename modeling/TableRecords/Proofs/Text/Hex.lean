import Mathlib
import TableRecords.Text.Hex

/-! # Hexadecimal digits

The digits of a number at a fixed width, one by one, and what they are read as. Bytes come back from
their digits, also when these are in capital letters.
-/

namespace TableRecords

theorem hexDigits_one {n : Nat} (h : n < 16) : hexDigits 1 n = [Nat.digitChar n] := by
  simp [hexDigits, Nat.toDigits_of_lt_base h]

theorem hexDigits_succ {width : Nat} (h : 0 < width) (n : Nat) :
    hexDigits (width + 1) n = hexDigits width (n / 16) ++ [Nat.digitChar (n % 16)] := by
  unfold hexDigits
  by_cases hs : n < 16
  · have hd : n / 16 = 0 := by omega
    have hm : n % 16 = n := by omega
    have hpad : width + 1 - 1 = (width - 1) + 1 := by omega
    rw [hd, hm, Nat.toDigits_of_lt_base hs, Nat.toDigits_zero]
    simp only [List.length_singleton, hpad, List.replicate_succ', List.append_assoc]
  · rw [Nat.toDigits_of_base_le (by decide) (by omega)]
    simp

theorem hexDigits_two {n : Nat} (h : n < 256) :
    hexDigits 2 n = [Nat.digitChar (n / 16), Nat.digitChar (n % 16)] := by
  rw [hexDigits_succ (by decide), hexDigits_one (by omega)]
  rfl

theorem hexDigits_four {n : Nat} (h : n < 0x10000) :
    hexDigits 4 n = [Nat.digitChar (n / 4096), Nat.digitChar (n / 256 % 16),
      Nat.digitChar (n / 16 % 16), Nat.digitChar (n % 16)] := by
  rw [hexDigits_succ (by decide), hexDigits_succ (by decide), hexDigits_two (by omega)]
  simp [Nat.div_div_eq_div_mul]

theorem hexValue_digitChar : ∀ d < 16, hexValue? (Nat.digitChar d) = some d := by decide

theorem hexValue_toUpper_digitChar : ∀ d < 16, hexValue? (Nat.digitChar d).toUpper = some d := by
  decide

/-- Bytes come back from their digits in capital letters. -/
theorem bytesOfHex_hexChars (bytes : List UInt8) :
    bytesOfHex? ((hexChars bytes).map Char.toUpper) = some bytes := by
  induction bytes with
  | nil => rfl
  | cons b bytes ih =>
      have hb : b.toNat < 256 := b.toNat_lt
      have hh := hexValue_toUpper_digitChar (b.toNat / 16) (by omega)
      have hl := hexValue_toUpper_digitChar (b.toNat % 16) (by omega)
      have hsum : 16 * (b.toNat / 16) + b.toNat % 16 = b.toNat := by omega
      have hc : hexChars (b :: bytes) = hexDigits 2 b.toNat ++ hexChars bytes := rfl
      rw [hc, hexDigits_two hb]
      simp only [List.cons_append, List.nil_append, List.map_cons, bytesOfHex?, hh, hl, ih, hsum,
        Option.bind_eq_bind, Option.bind_some, UInt8.ofNat_toNat]
      rfl

theorem mem_hexChars {bytes : List UInt8} {c : Char}
    (hc : c ∈ (hexChars bytes).map Char.toUpper) : ∃ d < 16, c = (Nat.digitChar d).toUpper := by
  obtain ⟨d, hd, rfl⟩ := List.mem_map.1 hc
  obtain ⟨b, _, hd⟩ := List.mem_flatMap.1 hd
  have hb : b.toNat < 256 := b.toNat_lt
  rw [hexDigits_two hb] at hd
  rcases List.mem_pair.1 hd with rfl | rfl
  · exact ⟨b.toNat / 16, by omega, rfl⟩
  · exact ⟨b.toNat % 16, by omega, rfl⟩

end TableRecords
