import Mathlib
import TableRecords.Journal.JsonValue
import TableRecords.Proofs.Text.Hex

/-! # JSON strings read back

A reader of JSON strings, which undoes every escape there is and puts the two halves of a surrogate
pair together. Text is written in printable ASCII between quotation marks, and the reader takes from
it that text and leaves what follows.
-/

namespace TableRecords

namespace CodePoints

def isHighHalf (n : Nat) : Bool := 0xD800 ≤ n && n < 0xDC00

def isLowHalf (n : Nat) : Bool := 0xDC00 ≤ n && n < 0xE000

/-- The code point that two halves spell. -/
def ofHalves (high low : Nat) : Nat := 0x10000 + ((high - 0xD800) * 0x400 + (low - 0xDC00))

/-- Code points in which a high half and a low half right after it are the one that they spell. -/
def paired : CodePoints → CodePoints
  | high :: low :: rest =>
    if isHighHalf high && isLowHalf low then ofHalves high low :: paired rest
    else high :: paired (low :: rest)
  | points => points

def halves (n : Nat) : CodePoints :=
  if n < 0x10000 then [n]
  else [0xD800 + (n - 0x10000) / 0x400, 0xDC00 + (n - 0x10000) % 0x400]

/-- Whether these are code points; all up to U+10FFFF are. -/
def InRange (points : CodePoints) : Prop := ∀ n ∈ points, n < 0x110000

theorem halves_of_lt {n : Nat} (h : n < 0x10000) : halves n = [n] := if_pos h

theorem halves_of_le {n : Nat} (h : 0x10000 ≤ n) :
    halves n = [0xD800 + (n - 0x10000) / 0x400, 0xDC00 + (n - 0x10000) % 0x400] :=
  if_neg (Nat.not_lt.2 h)

theorem halves_lt {n : Nat} (h : n < 0x110000) : ∀ m ∈ halves n, m < 0x10000 := by
  by_cases hlarge : 0x10000 ≤ n
  · rw [halves_of_le hlarge]
    simp
    omega
  · rw [halves_of_lt (Nat.not_le.1 hlarge)]
    simpa using hlarge

theorem paired_cons {n : Nat} (h : isHighHalf n = false) (rest : CodePoints) :
    paired (n :: rest) = n :: paired rest := by
  cases rest with
  | nil => rfl
  | cons m rest => simp [paired, h]

theorem paired_of_no_half {points : CodePoints} (h : ∀ n ∈ points, isHighHalf n = false) :
    paired points = points := by
  induction points with
  | nil => rfl
  | cons n rest ih =>
      obtain ⟨hn, hrest⟩ := List.forall_mem_cons.1 h
      rw [paired_cons hn, ih hrest]

theorem inRange_ofChars (cs : List Char) : InRange (ofChars cs) := by
  intro n hn
  obtain ⟨c, -, rfl⟩ := List.mem_map.1 hn
  have valid : c.toNat < 0xD800 ∨ 0xDFFF < c.toNat ∧ c.toNat < 0x110000 := c.valid
  omega

theorem inRange_ofString (s : String) : InRange (ofString s) := inRange_ofChars s.toList

theorem InRange.append {points others : CodePoints} (h : InRange points) (ho : InRange others) :
    InRange (points ++ others) := List.forall_mem_append.2 ⟨h, ho⟩

theorem isHighHalf_toNat (c : Char) : isHighHalf c.toNat = false := by
  have valid : c.toNat < 0xD800 ∨ 0xDFFF < c.toNat ∧ c.toNat < 0x110000 := c.valid
  simp only [isHighHalf, Bool.and_eq_false_iff, decide_eq_false_iff_not]
  omega

@[simp] theorem paired_ofString (s : String) : paired (ofString s) = ofString s := by
  refine paired_of_no_half fun n hn => ?_
  obtain ⟨c, -, rfl⟩ := List.mem_map.1 hn
  exact isHighHalf_toNat c

theorem toString?_ofString (s : String) : (ofString s).toString? = some s := by
  simp [toString?, ofString, toChars?_ofChars]

theorem paired_halves {n : Nat} (h : 0x10000 ≤ n) (hn : n < 0x110000) (rest : CodePoints) :
    paired (halves n ++ rest) = n :: paired rest := by
  have hhigh : isHighHalf (0xD800 + (n - 0x10000) / 0x400) = true := by
    simp [isHighHalf]
    omega
  have hlow : isLowHalf (0xDC00 + (n - 0x10000) % 0x400) = true := by
    simp [isLowHalf]
    omega
  have hsum : ofHalves (0xD800 + (n - 0x10000) / 0x400) (0xDC00 + (n - 0x10000) % 0x400) = n := by
    unfold ofHalves
    omega
  rw [halves_of_le h]
  simp only [List.cons_append, List.nil_append, paired, hhigh, hlow, hsum, Bool.and_self, if_true]

/-- Text in units of sixteen bits is paired to what the text is paired to. -/
theorem paired_flatMap_halves {points : CodePoints} (h : InRange points) :
    paired (points.flatMap halves) = paired points := by
  induction points using paired.induct with
  | case1 high low rest hpair ih =>
      obtain ⟨-, hrest⟩ := List.forall_mem_cons.1 h
      obtain ⟨-, hrest⟩ := List.forall_mem_cons.1 hrest
      obtain ⟨hh, hl⟩ := Bool.and_eq_true_iff.1 hpair
      have hhigh : high < 0x10000 := by simp [isHighHalf] at hh; omega
      have hlow : low < 0x10000 := by simp [isLowHalf] at hl; omega
      simp only [List.flatMap_cons, halves_of_lt hhigh, halves_of_lt hlow, List.singleton_append,
        paired, hpair, if_true, ih hrest]
  | case2 high low rest hapart ih =>
      obtain ⟨hhigh, hrest⟩ := List.forall_mem_cons.1 h
      have hpaired : paired (high :: low :: rest) = high :: paired (low :: rest) := by
        simp [paired, hapart]
      rw [hpaired, ← ih hrest, List.flatMap_cons]
      by_cases hlarge : 0x10000 ≤ high
      · exact paired_halves hlarge hhigh _
      · rw [halves_of_lt (by omega), List.singleton_append]
        -- the unit after `high` is `low` or the high half of it, so it is no low half either
        obtain ⟨next, more, hnext, hlow⟩ : ∃ next more,
            (low :: rest).flatMap halves = next :: more ∧
              (isHighHalf high && isLowHalf next) = false := by
          by_cases hbig : 0x10000 ≤ low
          · refine ⟨_, _, by rw [List.flatMap_cons, halves_of_le hbig]; rfl, ?_⟩
            have hl : low < 0x110000 := hrest low List.mem_cons_self
            simp [isLowHalf]
            omega
          · refine ⟨_, _, by rw [List.flatMap_cons, halves_of_lt (by omega)]; rfl, ?_⟩
            simpa using hapart
        rw [hnext]
        simp [paired, hlow]
  | case3 points hshort =>
      cases points with
      | nil => rfl
      | cons n rest =>
          cases rest with
          | nil =>
              by_cases hlarge : 0x10000 ≤ n
              · exact paired_halves hlarge (h n List.mem_cons_self) []
              · simp [halves_of_lt (Nat.not_le.1 hlarge)]
          | cons m rest => exact absurd rfl (hshort n m rest)

end CodePoints

def IsPrintableAscii (c : Char) : Prop := 0x20 ≤ c.toNat ∧ c.toNat < 0x7F

instance (c : Char) : Decidable (IsPrintableAscii c) :=
  inferInstanceAs (Decidable (0x20 ≤ c.toNat ∧ c.toNat < 0x7F))

theorem isPrintableAscii_digitChar : ∀ d < 16, IsPrintableAscii (Nat.digitChar d) := by decide

/-! ## The reader -/

namespace JsonValue

def unitValue? (a b c d : Char) : Option Nat := do
  let a ← hexValue? a
  let b ← hexValue? b
  let c ← hexValue? c
  let d ← hexValue? d
  pure (16 * (16 * (16 * a + b) + c) + d)

def escapedPoint? (letter : Char) : Option Nat :=
  [('"', '"'.toNat), ('\\', '\\'.toNat), ('/', '/'.toNat), ('b', 0x08), ('f', 0x0C), ('n', 0x0A),
    ('r', 0x0D), ('t', 0x09)].lookup letter

def after (n : Nat) (found : Option (CodePoints × List Char)) : Option (CodePoints × List Char) :=
  found.map fun found => (n :: found.1, found.2)

/-- The units of a string up to the quotation mark that ends it. Control characters have to be
escaped. -/
def readUnits : List Char → Option (CodePoints × List Char)
  | [] => none
  | '"' :: rest => some ([], rest)
  | '\\' :: 'u' :: a :: b :: c :: d :: rest => do
    let n ← unitValue? a b c d
    after n (readUnits rest)
  | '\\' :: letter :: rest => do
    let n ← escapedPoint? letter
    after n (readUnits rest)
  | c :: rest => if c.toNat < 0x20 then none else after c.toNat (readUnits rest)

def readText (cs : List Char) : Option (CodePoints × List Char) :=
  (readUnits cs).map fun found => (found.1.paired, found.2)

theorem readUnits_unitEscape {n : Nat} (h : n < 0x10000) (rest : List Char) :
    readUnits (unitEscape n ++ rest) = after n (readUnits rest) := by
  have ha := hexValue_digitChar (n / 4096) (by omega)
  have hb := hexValue_digitChar (n / 256 % 16) (by omega)
  have hc := hexValue_digitChar (n / 16 % 16) (by omega)
  have hd := hexValue_digitChar (n % 16) (by omega)
  have hsum : 16 * (16 * (16 * (n / 4096) + n / 256 % 16) + n / 16 % 16) + n % 16 = n := by omega
  rw [unitEscape, hexDigits_four h]
  simp [readUnits, unitValue?, ha, hb, hc, hd, hsum]

theorem shortEscape_spec {n : Nat} {letter : Char} (h : shortEscape? n = some letter) :
    escapedPoint? letter = some n ∧ letter ≠ 'u' ∧ IsPrintableAscii letter ∧ n < 0x80 := by
  unfold shortEscape? at h
  obtain ⟨before, after, htable, -⟩ := List.lookup_eq_some_iff.1 h
  have hm : (n, letter) ∈ before ++ (n, letter) :: after :=
    List.mem_append_right before List.mem_cons_self
  rw [← htable] at hm
  refine (?table : ∀ e ∈ _, escapedPoint? e.2 = some e.1 ∧ e.2 ≠ 'u' ∧ IsPrintableAscii e.2 ∧
    e.1 < 0x80) (n, letter) hm
  decide

theorem readUnits_short {n : Nat} {letter : Char} (h : shortEscape? n = some letter)
    (rest : List Char) :
    readUnits ('\\' :: letter :: rest) = after n (readUnits rest) := by
  obtain ⟨hn, hu, -, -⟩ := shortEscape_spec h
  simp [readUnits, hn, hu]

theorem readUnits_plain {c : Char} (hprintable : IsPrintableAscii c) (hquote : c ≠ '"')
    (hslash : c ≠ '\\') (rest : List Char) :
    readUnits (c :: rest) = after c.toNat (readUnits rest) := by
  have hcontrol : ¬c.toNat < 0x20 := Nat.not_lt.2 hprintable.1
  rw [readUnits.eq_def]
  split <;> simp_all

theorem toNat_ofNat_of_ascii {n : Nat} (h : n < 0x80) : (Char.ofNat n).toNat = n := by
  have valid : n.isValidChar := Or.inl (by omega)
  rw [Char.toNat_ofNat, if_pos valid]

theorem isPrintableAscii_ofNat {n : Nat} (hlow : 0x20 ≤ n) (hhigh : n < 0x7F) :
    IsPrintableAscii (Char.ofNat n) := by
  rw [IsPrintableAscii, toNat_ofNat_of_ascii (by omega)]
  exact ⟨hlow, hhigh⟩

/-- How a code point is written: with a letter, as it is, or by its units. -/
theorem pointText_cases (n : Nat) :
    (∃ letter, shortEscape? n = some letter ∧ pointText n = ['\\', letter]) ∨
    (shortEscape? n = none ∧ 0x20 ≤ n ∧ n < 0x7F ∧ pointText n = [Char.ofNat n]) ∨
    pointText n = (CodePoints.halves n).flatMap unitEscape := by
  unfold pointText
  split
  · rename_i letter h
    exact Or.inl ⟨letter, h, rfl⟩
  · rename_i h
    split
    · rename_i hplain
      obtain ⟨hlow, hhigh⟩ := Bool.and_eq_true_iff.1 hplain
      exact Or.inr (Or.inl ⟨h, of_decide_eq_true hlow, of_decide_eq_true hhigh, rfl⟩)
    · right; right
      split
      · rename_i hsmall
        simp [CodePoints.halves_of_lt hsmall]
      · rename_i hlarge
        simp [CodePoints.halves_of_le (Nat.not_lt.1 hlarge)]

theorem readUnits_units {points : CodePoints} (h : ∀ n ∈ points, n < 0x10000) (rest : List Char) :
    readUnits (points.flatMap unitEscape ++ rest) =
      (readUnits rest).map fun found => (points ++ found.1, found.2) := by
  induction points with
  | nil => simp
  | cons n points ih =>
      obtain ⟨hn, hpoints⟩ := List.forall_mem_cons.1 h
      rw [List.flatMap_cons, List.append_assoc, readUnits_unitEscape hn, ih hpoints, after,
        Option.map_map]
      rfl

theorem readUnits_pointText {n : Nat} (h : n < 0x110000) (rest : List Char) :
    readUnits (pointText n ++ rest) =
      (readUnits rest).map fun found => (CodePoints.halves n ++ found.1, found.2) := by
  rcases pointText_cases n with ⟨letter, hl, ht⟩ | ⟨hl, hlow, hhigh, ht⟩ | ht
  · obtain ⟨-, -, -, hascii⟩ := shortEscape_spec hl
    rw [ht, CodePoints.halves_of_lt (by omega)]
    exact readUnits_short hl rest
  · have hn : (Char.ofNat n).toNat = n := toNat_ofNat_of_ascii (by omega)
    have apart {c : Char} (hc : shortEscape? c.toNat ≠ none) : Char.ofNat n ≠ c := by
      rintro rfl
      exact hc (hn.symm ▸ hl)
    have hprintable := isPrintableAscii_ofNat hlow hhigh
    rw [ht, CodePoints.halves_of_lt (by omega)]
    have hread := readUnits_plain hprintable (apart (by decide)) (apart (by decide)) rest
    rw [hn] at hread
    exact hread
  · rw [ht, readUnits_units (CodePoints.halves_lt h)]

theorem readUnits_points {points : CodePoints} (h : points.InRange) (rest : List Char) :
    readUnits (points.flatMap pointText ++ '"' :: rest) =
      some (points.flatMap CodePoints.halves, rest) := by
  induction points with
  | nil => rfl
  | cons n points ih =>
      obtain ⟨hn, hpoints⟩ := List.forall_mem_cons.1 h
      rw [List.flatMap_cons, List.append_assoc, readUnits_pointText hn, ih hpoints]
      rfl

/-- A string is read as its text, with halves put together. -/
theorem readText_points {points : CodePoints} (h : points.InRange) (rest : List Char) :
    readText (points.flatMap pointText ++ '"' :: rest) = some (points.paired, rest) := by
  rw [readText, readUnits_points h, Option.map_some, CodePoints.paired_flatMap_halves h]

theorem printable_unitEscape {n : Nat} (h : n < 0x10000) :
    ∀ c ∈ unitEscape n, IsPrintableAscii c := by
  rw [unitEscape, hexDigits_four h]
  refine List.forall_mem_cons.2 ⟨by decide, List.forall_mem_cons.2 ⟨by decide, ?_⟩⟩
  intro c hc
  simp only [List.mem_cons, List.not_mem_nil, or_false] at hc
  rcases hc with rfl | rfl | rfl | rfl
  all_goals exact isPrintableAscii_digitChar _ (by omega)

theorem printable_pointText {n : Nat} (h : n < 0x110000) :
    ∀ c ∈ pointText n, IsPrintableAscii c := by
  rcases pointText_cases n with ⟨letter, hl, ht⟩ | ⟨-, hlow, hhigh, ht⟩ | ht
  · obtain ⟨-, -, hletter, -⟩ := shortEscape_spec hl
    rw [ht]
    exact List.forall_mem_cons.2 ⟨by decide, List.forall_mem_singleton.2 hletter⟩
  · rw [ht]
    exact List.forall_mem_singleton.2 (isPrintableAscii_ofNat hlow hhigh)
  · rw [ht]
    intro c hc
    obtain ⟨m, hm, hc⟩ := List.mem_flatMap.1 hc
    exact printable_unitEscape (CodePoints.halves_lt h m hm) c hc

theorem printable_stringText {points : CodePoints} (h : points.InRange) :
    ∀ c ∈ stringText points, IsPrintableAscii c := by
  refine List.forall_mem_cons.2 ⟨by decide, List.forall_mem_append.2 ⟨fun c hc => ?_, ?_⟩⟩
  swap
  · exact List.forall_mem_singleton.2 (by decide)
  obtain ⟨n, hn, hc⟩ := List.mem_flatMap.1 hc
  exact printable_pointText (h n hn) c hc

end JsonValue

end TableRecords
