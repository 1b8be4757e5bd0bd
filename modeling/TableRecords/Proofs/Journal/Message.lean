import Mathlib
import TableRecords.Journal.Entry
import TableRecords.Proofs.Journal.JsonString
import TableRecords.Proofs.Outcome

/-! # Messages

A template that is filled in is made of code points: its own characters, those of its arguments,
and those that an argument names by their numbers.
-/

namespace TableRecords

open Outcome CodePoints

namespace Template

theorem characterArgument_lt {v : Value} {n : Nat} (h : characterArgument v = .ok n) :
    n < 0x110000 := by
  have hcode {k : Int} (hk : (if 0 ≤ k ∧ k < 0x110000 then .ok k.toNat else
      .error (.template .characterRange) : Except Fault Nat) = .ok n) : n < 0x110000 := by
    split at hk
    · cases hk
      omega
    · cases hk
  unfold characterArgument at h
  split at h
  · split at h
    · cases h
      exact inRange_ofChars [_] _ List.mem_cons_self
    · cases h
  · exact hcode h
  · exact hcode h
  · cases h

theorem inRange_convert {flags : List Char} {precision : Option Nat} {letter : Char}
    {position : Nat} {v : Value} {converted : Converted}
    (h : convert flags precision letter position v = .ok converted) : converted.body.InRange := by
  unfold convert at h
  split at h
  case h_1 | h_2 | h_3 =>
    cases h
    exact inRange_ofChars _
  case h_4 | h_5 | h_6 =>
    obtain ⟨n, -, h⟩ := bind_eq_ok.1 h
    obtain ⟨_, -, h⟩ := bind_eq_ok.1 h
    cases h
    exact inRange_ofChars _
  case h_7 | h_8 | h_9 =>
    obtain ⟨n, -, rfl⟩ := map_eq_ok.1 h
    exact inRange_ofChars _
  case h_10 | h_11 | h_12 | h_13 | h_14 | h_15 =>
    obtain ⟨x, -, rfl⟩ := map_eq_ok.1 h
    exact inRange_ofChars _
  case h_16 =>
    obtain ⟨n, hn, rfl⟩ := map_eq_ok.1 h
    exact List.forall_mem_singleton.2 (characterArgument_lt hn)
  case h_17 => cases h

theorem inRange_pad (flags : List Char) (width : Nat) {converted : Converted}
    (h : converted.body.InRange) : (pad flags width converted).InRange := by
  have hfront := inRange_ofChars (converted.sign ++ converted.mark)
  have hfiller (k : Nat) (c : Char) : InRange (List.replicate k c.toNat) := by
    rw [← List.map_replicate]
    exact inRange_ofChars _
  unfold pad
  simp only
  split
  · exact (hfront.append h).append (hfiller _ _)
  · split
    · exact (hfront.append (hfiller _ _)).append h
    · exact ((hfiller _ _).append hfront).append h

theorem inRange_fillDirective {d : Directive} {supply left : Supply} {points : CodePoints}
    (h : fillDirective d supply = .ok (points, left)) : points.InRange := by
  unfold fillDirective at h
  -- with a key or without, the same steps follow
  split at h
  all_goals
    obtain ⟨_, -, h⟩ := bind_eq_ok.1 h
    obtain ⟨⟨_, _⟩, -, h⟩ := bind_eq_ok.1 h
    obtain ⟨⟨_, _⟩, -, h⟩ := bind_eq_ok.1 h
    obtain ⟨⟨_, _⟩, -, h⟩ := bind_eq_ok.1 h
    obtain ⟨⟨_, _⟩, -, h⟩ := bind_eq_ok.1 h
    obtain ⟨converted, hconverted, h⟩ := bind_eq_ok.1 h
    cases h
    exact inRange_pad _ _ (inRange_convert hconverted)

theorem inRange_fill {pieces : List Piece} {supply : Supply} {points : CodePoints}
    (h : fill pieces supply = .ok points) : points.InRange := by
  induction pieces generalizing supply points with
  | nil =>
      unfold fill at h
      split at h
      · cases h
      · cases h
        exact List.forall_mem_nil _
  | cons piece pieces ih =>
      cases piece with
      | plain c =>
          obtain ⟨filled, hfilled, h⟩ := bind_eq_ok.1 h
          cases h
          exact (inRange_ofChars [c]).append (ih hfilled)
      | unclosedKey => cases h
      | directive d =>
          obtain ⟨⟨converted, left⟩, hconverted, h⟩ := bind_eq_ok.1 h
          obtain ⟨filled, hfilled, h⟩ := bind_eq_ok.1 h
          cases h
          exact (inRange_fillDirective hconverted).append (ih hfilled)

end Template

theorem Entry.inRange_messageText {entry : Entry} {points : CodePoints}
    (h : entry.messageText = .ok points) : points.InRange := by
  unfold messageText at h
  split at h
  · cases h
  · obtain ⟨template, -, h⟩ := bind_eq_ok.1 h
    obtain ⟨supply, -, h⟩ := bind_eq_ok.1 h
    split at h
    · cases h
      exact inRange_ofString template
    · exact Template.inRange_fill h

end TableRecords
