import Mathlib
import TableRecords.Proofs.Journal.JsonString
import TableRecords.Proofs.Number.Numeral
import TableRecords.Proofs.Outcome
import TableRecords.Value.Key

/-! # JSON read back

A reader of JSON, with white space wherever JSON allows it and nothing that JSON does not allow.
What is written of a value without fractions is printable ASCII and is read as that value, with the
halves of surrogate pairs put together; that of a list or an object is read as what its parts are
read as.
-/

namespace TableRecords

namespace JsonValue

/-- A reader takes something from the front of a text and leaves the rest. -/
abbrev Taker (α : Type) : Type := List Char → Option (α × List Char)

def isBlank (c : Char) : Bool := [' ', '\t', '\n', '\r'].contains c

def skipBlanks (cs : List Char) : List Char := cs.dropWhile isBlank

def readDigits : Taker (List Char) := fun cs =>
  let (digits, rest) := cs.span Char.isDigit
  if digits.isEmpty then none else some (digits, rest)

def readWhole : Taker (List Char) := fun cs => do
  let (digits, rest) ← readDigits cs
  match digits with
  | '0' :: _ :: _ => none
  | _ => pure (digits, rest)

def readFraction : Taker (List Char)
  | '.' :: cs => readDigits cs
  | cs => some ([], cs)

def readExponent : Taker (Option Int)
  | [] => some (none, [])
  | mark :: cs =>
    if mark == 'e' || mark == 'E' then do
      let (negative, cs) := splitSign cs
      let (digits, rest) ← readDigits cs
      pure (some (signedNat negative (ofDecimalDigits digits)), rest)
    else some (none, mark :: cs)

def readUnsigned (negative : Bool) : Taker JsonValue := fun cs => do
  let (whole, rest) ← readWhole cs
  let (fraction, rest) ← readFraction rest
  let (exponent, rest) ← readExponent rest
  if fraction.isEmpty && exponent.isNone then
    pure (int (signedNat negative (ofDecimalDigits whole)), rest)
  else
    let number : Scientific :=
      ⟨ofDecimalDigits (whole ++ fraction), exponent.getD 0 - fraction.length⟩
    pure (real (.ofScientific negative number), rest)

def readNumber : Taker JsonValue
  | '-' :: cs => readUnsigned true cs
  | cs => readUnsigned false cs

/-- What stands between commas, at least once, up to the character that closes it. -/
def readSeries {α : Type} (close : Char) (one : Taker α) : Nat → Taker (List α)
  | 0, _ => none
  | fuel + 1, cs => do
    let (a, rest) ← one cs
    match skipBlanks rest with
    | [] => none
    | c :: rest =>
      if c = close then pure ([a], rest)
      else if c = ',' then do
        let (as, rest) ← readSeries close one fuel rest
        pure (a :: as, rest)
      else none

def readBetween {α : Type} (close : Char) (one : Taker α) (fuel : Nat) : Taker (List α) := fun cs =>
  match skipBlanks cs with
  | [] => none
  | c :: rest => if c = close then some ([], rest) else readSeries close one fuel cs

def readMember (value : Taker JsonValue) : Taker (String × JsonValue) := fun cs =>
  match skipBlanks cs with
  | '"' :: rest => do
    let (points, rest) ← readText rest
    let name ← points.toString?
    match skipBlanks rest with
    | ':' :: rest => do
      let (item, rest) ← value rest
      pure ((name, item), rest)
    | _ => none
  | _ => none

def readValue : Nat → Taker JsonValue
  | 0, _ => none
  | fuel + 1, cs =>
    match skipBlanks cs with
    | 'n' :: 'u' :: 'l' :: 'l' :: rest => some (null, rest)
    | 't' :: 'r' :: 'u' :: 'e' :: rest => some (bool true, rest)
    | 'f' :: 'a' :: 'l' :: 's' :: 'e' :: rest => some (bool false, rest)
    | '"' :: rest => (readText rest).map fun found => (text found.1, found.2)
    | '[' :: rest =>
      (readBetween ']' (readValue fuel) fuel rest).map fun found => (list found.1, found.2)
    | '\x7b' :: rest =>
      (readBetween '\x7d' (readMember (readValue fuel)) fuel rest).map fun found =>
        (object found.1, found.2)
    | cs => readNumber cs

/-- The value that a text is, with nothing but white space around it. -/
def ofText? (line : String) : Option JsonValue := do
  let (found, rest) ← readValue (line.length + 1) line.toList
  if (skipBlanks rest).isEmpty then some found else none

/-- Whether a text is at its end or at what ends a part of a list or an object. -/
def Ends (rest : List Char) : Prop := ∀ c ∈ rest.head?, c = ',' ∨ c = ']' ∨ c = '\x7d'

theorem ends_nil : Ends [] := by simp [Ends]

theorem ends_cons {c : Char} (h : c = ',' ∨ c = ']' ∨ c = '\x7d') (rest : List Char) :
    Ends (c :: rest) := by
  simpa [Ends] using h

theorem skipBlanks_cons {c : Char} (h : isBlank c = false) (cs : List Char) :
    skipBlanks (c :: cs) = c :: cs := by simp [skipBlanks, h]

@[simp] theorem skipBlanks_space (cs : List Char) : skipBlanks (' ' :: cs) = skipBlanks cs := rfl

@[simp] theorem skipBlanks_skipBlanks (cs : List Char) :
    skipBlanks (skipBlanks cs) = skipBlanks cs := List.dropWhile_idempotent isBlank cs

theorem readValue_skipBlanks (fuel : Nat) (cs : List Char) :
    readValue fuel (skipBlanks cs) = readValue fuel cs := by
  cases fuel with
  | zero => rfl
  | succ fuel => rw [readValue, skipBlanks_skipBlanks, readValue]

theorem readMember_skipBlanks (value : Taker JsonValue) (cs : List Char) :
    readMember value (skipBlanks cs) = readMember value cs := by
  rw [readMember, skipBlanks_skipBlanks, readMember]

theorem Ends.not_digit {rest : List Char} (h : Ends rest) :
    ∀ c ∈ rest.head?, c.isDigit = false := by
  intro c hc
  rcases h c hc with rfl | rfl | rfl <;> rfl

theorem readDigits_append {digits : List Char} (h : AreDigits digits) {rest : List Char}
    (boundary : Ends rest) : readDigits (digits ++ rest) = some (digits, rest) := by
  unfold readDigits
  rw [span_append h.2 boundary.not_digit]
  simp [h.1]

theorem head_toDigits {n : Nat} (h : 0 < n) :
    ∃ d rest, Nat.toDigits 10 n = d :: rest ∧ d ≠ '0' := by
  induction n using Nat.strong_induction_on with
  | _ n ih =>
      by_cases hs : n < 10
      · have hdigit : ∀ d < 10, 0 < d → Nat.digitChar d ≠ '0' := by decide
        exact ⟨_, [], Nat.toDigits_of_lt_base hs, hdigit n hs h⟩
      · obtain ⟨d, rest, hd, hne⟩ := ih (n / 10) (by omega) (by omega)
        refine ⟨d, rest ++ [Nat.digitChar (n % 10)], ?_, hne⟩
        rw [Nat.toDigits_of_base_le (by decide) (by omega), hd, List.cons_append]

theorem readWhole_toDigits (n : Nat) {rest : List Char} (boundary : Ends rest) :
    readWhole (Nat.toDigits 10 n ++ rest) = some (Nat.toDigits 10 n, rest) := by
  rw [readWhole, readDigits_append (areDigits_toDigits n) boundary]
  rcases Nat.eq_zero_or_pos n with rfl | hn
  · rfl
  · obtain ⟨d, more, hd, hne⟩ := head_toDigits hn
    rw [hd]
    simp [hne]

theorem readFraction_of_ends {rest : List Char} (boundary : Ends rest) :
    readFraction rest = some ([], rest) := by
  cases rest with
  | nil => rfl
  | cons c rest => rcases boundary c rfl with rfl | rfl | rfl <;> rfl

theorem readExponent_of_ends {rest : List Char} (boundary : Ends rest) :
    readExponent rest = some (none, rest) := by
  cases rest with
  | nil => rfl
  | cons c rest => rcases boundary c rfl with rfl | rfl | rfl <;> rfl

theorem readUnsigned_toDigits (negative : Bool) (n : Nat) {rest : List Char}
    (boundary : Ends rest) :
    readUnsigned negative (Nat.toDigits 10 n ++ rest) =
      some (int (signedNat negative n), rest) := by
  simp [readUnsigned, readWhole_toDigits n boundary, readFraction_of_ends boundary,
    readExponent_of_ends boundary, ofDecimalDigits_toDigits]

theorem readNumber_digits {digits : List Char} (h : AreDigits digits) (rest : List Char) :
    readNumber (digits ++ rest) = readUnsigned false (digits ++ rest) := by
  obtain ⟨d, more, rfl⟩ := List.exists_cons_of_ne_nil h.1
  have hminus : d ≠ '-' := by
    rintro rfl
    simpa using h.2 '-' List.mem_cons_self
  simp [readNumber, hminus]

theorem readNumber_toString (n : Int) {rest : List Char} (boundary : Ends rest) :
    readNumber ((toString n).toList ++ rest) = some (int n, rest) := by
  rw [Int.toString_eq_repr, Int.repr_eq_if]
  split
  · rename_i hn
    have htext : n.toNat.repr.toList = Nat.toDigits 10 n.toNat := by simp
    have hvalue : signedNat false n.toNat = n := Int.toNat_of_nonneg hn
    rw [htext, readNumber_digits (areDigits_toDigits n.toNat),
      readUnsigned_toDigits false n.toNat boundary, hvalue]
  · rename_i hn
    have htext : ("-" ++ (-n).toNat.repr).toList = '-' :: Nat.toDigits 10 (-n).toNat := by simp
    have hvalue : signedNat true (-n).toNat = n := by
      simp only [signedNat, if_true]
      omega
    rw [htext, List.cons_append, readNumber, readUnsigned_toDigits true _ boundary, hvalue]

/-! ## Series -/

theorem separated_cons_cons (part next : List Char) (parts : List (List Char)) :
    separated (part :: next :: parts) = part ++ ',' :: ' ' :: separated (next :: parts) := by
  simp [separated, List.intercalate_cons_cons]

theorem length_le_separated {part : List Char} {parts : List (List Char)} (h : part ∈ parts) :
    part.length ≤ (separated parts).length := by
  induction parts with
  | nil => cases h
  | cons first parts ih =>
      cases parts with
      | nil => simp [separated, List.mem_singleton.1 h]
      | cons next parts =>
          rw [separated_cons_cons, List.length_append]
          rcases List.mem_cons.1 h with rfl | h
          · omega
          · have := ih h
            simp only [List.length_cons]
            omega

theorem length_parts_le (parts : List (List Char)) :
    parts.length ≤ (separated parts).length + 1 := by
  induction parts with
  | nil => simp
  | cons part parts ih =>
      cases parts with
      | nil => simp
      | cons next parts =>
          rw [separated_cons_cons]
          simp only [List.length_append, List.length_cons] at ih ⊢
          omega

theorem forall_mem_separated {P : Char → Prop} (hcomma : P ',') (hspace : P ' ')
    {parts : List (List Char)} (h : ∀ part ∈ parts, ∀ c ∈ part, P c) :
    ∀ c ∈ separated parts, P c := by
  induction parts with
  | nil => simp [separated]
  | cons part parts ih =>
      obtain ⟨hpart, hparts⟩ := List.forall_mem_cons.1 h
      cases parts with
      | nil => simpa [separated] using hpart
      | cons next parts =>
          rw [separated_cons_cons]
          refine List.forall_mem_append.2 ⟨hpart, ?_⟩
          exact List.forall_mem_cons.2 ⟨hcomma, List.forall_mem_cons.2 ⟨hspace, ih hparts⟩⟩

section

variable {α : Type} {close : Char} {one : Taker α}

/-- Whether a reader takes the whole of a text wherever the text may stand. -/
def Takes (one : Taker α) (part : List Char) (a : α) : Prop :=
  ∀ rest, Ends rest → one (part ++ rest) = some (a, rest)

theorem readSeries_space (skips : ∀ cs, one (skipBlanks cs) = one cs) (fuel : Nat)
    (cs : List Char) : readSeries close one fuel (' ' :: cs) = readSeries close one fuel cs := by
  have hone : one (' ' :: cs) = one cs := by rw [← skips, skipBlanks_space, skips]
  cases fuel with
  | zero => rfl
  | succ fuel => rw [readSeries, hone, readSeries]

theorem readSeries_of_refused {cs : List Char} (h : one cs = none) (fuel : Nat) :
    readSeries close one fuel cs = none := by
  cases fuel with
  | zero => rfl
  | succ fuel => simp [readSeries, h]

theorem readSeries_separated (hclose : close = ']' ∨ close = '\x7d')
    (skips : ∀ cs, one (skipBlanks cs) = one cs) {part : List Char} {a : α}
    {parts : List (List Char)} {as : List α} (hpart : Takes one part a)
    (hparts : List.Forall₂ (Takes one) parts as) {fuel : Nat} (hfuel : parts.length < fuel)
    (rest : List Char) :
    readSeries close one fuel (separated (part :: parts) ++ close :: rest) =
      some (a :: as, rest) := by
  have hblank : isBlank close = false := by rcases hclose with rfl | rfl <;> rfl
  have hcomma : ',' ≠ close := by rcases hclose with rfl | rfl <;> decide
  induction hparts generalizing part a fuel with
  | nil =>
      obtain ⟨fuel, rfl⟩ := Nat.exists_eq_succ_of_ne_zero (Nat.ne_of_gt hfuel)
      have hone := hpart (close :: rest) (ends_cons (Or.inr hclose) rest)
      simp [readSeries, separated, hone, skipBlanks_cons hblank]
  | @cons next b parts as hnext hparts ih =>
      obtain ⟨fuel, rfl⟩ := Nat.exists_eq_succ_of_ne_zero (Nat.ne_of_gt (Nat.zero_lt_of_lt hfuel))
      have hone := hpart (',' :: ' ' :: (separated (next :: parts) ++ close :: rest))
        (ends_cons (Or.inl rfl) _)
      have hmore := ih hnext (Nat.lt_of_succ_lt_succ hfuel)
      rw [separated_cons_cons, List.append_assoc, List.cons_append, List.cons_append, readSeries,
        hone]
      simp [skipBlanks_cons (c := ',') rfl, hcomma, readSeries_space skips, hmore]

theorem readBetween_separated (hclose : close = ']' ∨ close = '\x7d')
    (skips : ∀ cs, one (skipBlanks cs) = one cs) (refuses : ∀ cs, one (close :: cs) = none)
    {parts : List (List Char)} {as : List α} (h : List.Forall₂ (Takes one) parts as) {fuel : Nat}
    (hfuel : (separated parts).length < fuel) (rest : List Char) :
    readBetween close one fuel (separated parts ++ close :: rest) = some (as, rest) := by
  have hblank : isBlank close = false := by rcases hclose with rfl | rfl <;> rfl
  cases h with
  | nil => simp [readBetween, separated, skipBlanks_cons hblank]
  | @cons part a parts as hpart hparts =>
      have hmany : (part :: parts).length ≤ fuel := Nat.le_trans (length_parts_le _) hfuel
      have hseries := readSeries_separated hclose skips hpart hparts hmany rest
      unfold readBetween
      split
      · rename_i hskip
        have hall := List.dropWhile_eq_nil_iff.1 hskip close (by simp)
        exact absurd (hblank.symm.trans hall) (by decide)
      · rename_i c cs hskip
        -- a series that began with what closes it could not be read
        have hc : c ≠ close := by
          rintro rfl
          rw [readSeries_of_refused (by rw [← skips, hskip, refuses])] at hseries
          cases hseries
        rw [if_neg hc, hseries]

end

/-! ## Values -/

/-- Whether a value is written in printable ASCII, and as what it is read. -/
structure ReadsAs (j found : JsonValue) : Prop where
  printable : ∀ c ∈ j.chars, IsPrintableAscii c
  takes : ∀ fuel, j.chars.length < fuel → Takes (readValue fuel) j.chars found

/-- A value is read by what its first character announces. -/
theorem readsAs_of_succ {j found : JsonValue} (printable : ∀ c ∈ j.chars, IsPrintableAscii c)
    (takes : ∀ fuel, j.chars.length ≤ fuel → Takes (readValue (fuel + 1)) j.chars found) :
    ReadsAs j found where
  printable := printable
  takes fuel h := by
    obtain ⟨fuel, rfl⟩ := Nat.exists_eq_succ_of_ne_zero (Nat.ne_of_gt (Nat.zero_lt_of_lt h))
    exact takes fuel (Nat.le_of_lt_succ h)

theorem printable_of_all {cs : List Char} (h : cs.all (decide <| IsPrintableAscii ·) = true) :
    ∀ c ∈ cs, IsPrintableAscii c := fun c hc => of_decide_eq_true (List.all_eq_true.1 h c hc)

theorem readsAs_null : ReadsAs null null :=
  readsAs_of_succ (printable_of_all rfl) fun _ _ _ _ => rfl

theorem readsAs_bool (b : Bool) : ReadsAs (bool b) (bool b) := by
  cases b with
  | true => exact readsAs_of_succ (printable_of_all rfl) fun _ _ _ _ => rfl
  | false => exact readsAs_of_succ (printable_of_all rfl) fun _ _ _ _ => rfl

theorem isPrintableAscii_of_isNumberChar {c : Char} (h : isNumberChar c = true) :
    IsPrintableAscii c := by
  rcases Bool.or_eq_true_iff.1 h with hd | hm
  · obtain ⟨hlow, hhigh⟩ := Bool.and_eq_true_iff.1 hd
    have hzero : '0'.toNat ≤ c.toNat := of_decide_eq_true hlow
    have hnine : c.toNat ≤ '9'.toNat := of_decide_eq_true hhigh
    exact ⟨Nat.le_trans (by decide) hzero, Nat.lt_of_le_of_lt hnine (by decide)⟩
  · simp only [List.contains_eq_mem, decide_eq_true_eq, List.mem_cons, List.not_mem_nil,
      or_false] at hm
    rcases hm with rfl | rfl | rfl | rfl <;> decide

/-- What begins with a digit or a minus is a number. -/
theorem readValue_number {c : Char} (h : c.isDigit = true ∨ c = '-') (fuel : Nat)
    (cs : List Char) : readValue (fuel + 1) (c :: cs) = readNumber (c :: cs) := by
  have hne {d : Char} (hd : d.isDigit = false) (hm : d ≠ '-') : c ≠ d := by
    rintro rfl
    rcases h with h | rfl
    · rw [hd] at h
      cases h
    · exact hm rfl
  have hblank : isBlank c = false := by
    simp [isBlank, hne (d := ' ') rfl (by decide), hne (d := '\t') rfl (by decide),
      hne (d := '\n') rfl (by decide), hne (d := '\r') rfl (by decide)]
  rw [readValue, skipBlanks_cons hblank]
  split
  case h_7 => rfl
  all_goals
    rename_i heq
    exact absurd (List.cons.inj heq).1 (hne rfl (by decide))

theorem readsAs_int (n : Int) : ReadsAs (int n) (int n) := by
  have hnumber : IsNumber (toString n).toList := isNumber_toString n
  refine readsAs_of_succ ?_ fun fuel _ rest boundary => ?_
  · simp only [chars]
    exact fun c hc => isPrintableAscii_of_isNumberChar (hnumber.isNumberChar_of_mem hc)
  · obtain ⟨c, cs, htext, hc⟩ := hnumber.head
    have hread := readNumber_toString n boundary
    simp only [chars]
    rw [htext, List.cons_append] at hread ⊢
    rw [readValue_number hc, hread]

theorem readsAs_text {points : CodePoints} (h : points.InRange) :
    ReadsAs (text points) (text points.paired) := by
  refine readsAs_of_succ (by simpa only [chars] using printable_stringText h)
    fun fuel _ rest boundary => ?_
  have hread := readText_points h rest
  simp only [chars, stringText, List.cons_append, List.append_assoc, List.nil_append, readValue,
    skipBlanks_cons (c := '"') rfl, hread]
  rfl

theorem readsAs_ofString (s : String) : ReadsAs (ofString s) (ofString s) := by
  have hread := readsAs_text (CodePoints.inRange_ofString s)
  rwa [CodePoints.paired_ofString] at hread

theorem itemChars_eq (items : List JsonValue) : itemChars items = items.map chars := by
  induction items with
  | nil => rfl
  | cons item items ih => rw [itemChars, ih, List.map_cons]

def memberText (name : String) (item : JsonValue) : List Char :=
  stringText (.ofString name) ++ ':' :: ' ' :: item.chars

theorem memberChars_eq (members : List (String × JsonValue)) :
    memberChars members = members.map fun member => memberText member.1 member.2 := by
  induction members with
  | nil => rfl
  | cons member members ih => rw [memberChars, ih, List.map_cons, memberText]

theorem readValue_closing {close : Char} (hclose : close = ']' ∨ close = '\x7d') (fuel : Nat)
    (cs : List Char) : readValue fuel (close :: cs) = none := by
  cases fuel with
  | zero => rfl
  | succ fuel => rcases hclose with rfl | rfl <;> rfl

theorem readMember_closing (value : Taker JsonValue) (cs : List Char) :
    readMember value ('\x7d' :: cs) = none := rfl

theorem takes_member {value : Taker JsonValue} (skips : ∀ cs, value (skipBlanks cs) = value cs)
    (name : String) {item found : JsonValue} (h : Takes value item.chars found) :
    Takes (readMember value) (memberText name item) (name, found) := by
  intro rest boundary
  have hname := readText_points (CodePoints.inRange_ofString name)
    (':' :: ' ' :: (item.chars ++ rest))
  have hspace : value (' ' :: (item.chars ++ rest)) = value (item.chars ++ rest) := by
    rw [← skips, skipBlanks_space, skips]
  simp only [memberText, stringText, List.cons_append, List.append_assoc, List.nil_append,
    readMember, skipBlanks_cons (c := '"') rfl, hname, CodePoints.paired_ofString]
  simp [CodePoints.toString?_ofString, skipBlanks_cons (c := ':') rfl, hspace, h rest boundary]

theorem printable_between {first last : Char} (hfirst : IsPrintableAscii first)
    (hlast : IsPrintableAscii last) {parts : List (List Char)}
    (h : ∀ part ∈ parts, ∀ c ∈ part, IsPrintableAscii c) :
    ∀ c ∈ first :: (separated parts ++ [last]), IsPrintableAscii c := by
  refine List.forall_mem_cons.2 ⟨hfirst, List.forall_mem_append.2 ⟨?_, ?_⟩⟩
  · exact forall_mem_separated (by decide) (by decide) h
  · exact List.forall_mem_singleton.2 hlast

theorem readsAs_list {items founds : List JsonValue} (h : List.Forall₂ ReadsAs items founds) :
    ReadsAs (list items) (list founds) := by
  refine readsAs_of_succ ?_ fun fuel hfuel rest _ => ?_
  · simp only [chars, itemChars_eq]
    refine printable_between (by decide) (by decide) fun part hpart => ?_
    obtain ⟨item, hitem, rfl⟩ := List.mem_map.1 hpart
    obtain ⟨found, -, hread⟩ := Outcome.exists_of_mem h hitem
    exact hread.printable
  · simp only [chars, itemChars_eq, List.length_cons, List.length_append] at hfuel ⊢
    have hbetween : (separated (items.map chars)).length < fuel := by omega
    have hshort : ∀ item ∈ items, item.chars.length < fuel := fun item hitem => by
      have := length_le_separated (List.mem_map_of_mem (f := chars) hitem)
      omega
    have hparts : List.Forall₂ (Takes (readValue fuel)) (items.map chars) founds :=
      List.forall₂_map_left_iff.2 <| ((List.forall₂_and_left _ _).2 ⟨hshort, h⟩).imp
        fun item found hread => hread.2.takes fuel hread.1
    have hread := readBetween_separated (Or.inl rfl) (readValue_skipBlanks fuel)
      (readValue_closing (Or.inl rfl) fuel) hparts hbetween rest
    simp only [List.cons_append, List.append_assoc, List.nil_append, readValue,
      skipBlanks_cons (c := '[') rfl, hread]
    rfl

theorem readsAs_object {members founds : List (String × JsonValue)}
    (h : List.Forall₂ (fun member found => member.1 = found.1 ∧ ReadsAs member.2 found.2)
      members founds) : ReadsAs (object members) (object founds) := by
  refine readsAs_of_succ ?_ fun fuel hfuel rest _ => ?_
  · simp only [chars, memberChars_eq]
    refine printable_between (by decide) (by decide) fun part hpart => ?_
    obtain ⟨member, hmember, rfl⟩ := List.mem_map.1 hpart
    obtain ⟨found, -, -, hread⟩ := Outcome.exists_of_mem h hmember
    refine List.forall_mem_append.2 ⟨printable_stringText (CodePoints.inRange_ofString _), ?_⟩
    exact List.forall_mem_cons.2 ⟨by decide, List.forall_mem_cons.2 ⟨by decide, hread.printable⟩⟩
  · simp only [chars, memberChars_eq, List.length_cons, List.length_append] at hfuel ⊢
    generalize htexts : members.map (fun member => memberText member.1 member.2) = texts at hfuel ⊢
    have hbetween : (separated texts).length < fuel := by omega
    have hshort : ∀ member ∈ members, member.2.chars.length < fuel := fun member hmember => by
      have htext : memberText member.1 member.2 ∈ texts := htexts ▸ List.mem_map_of_mem hmember
      have hlong : member.2.chars.length ≤ (memberText member.1 member.2).length := by
        simp only [memberText, List.length_append, List.length_cons]
        omega
      have := length_le_separated htext
      omega
    have hparts : List.Forall₂ (Takes (readMember (readValue fuel))) texts founds := by
      rw [← htexts]
      refine List.forall₂_map_left_iff.2 <| ((List.forall₂_and_left _ _).2 ⟨hshort, h⟩).imp ?_
      rintro ⟨name, item⟩ ⟨name', found⟩ ⟨hlt, rfl, hread⟩
      exact takes_member (readValue_skipBlanks fuel) name (hread.takes fuel hlt)
    have hread := readBetween_separated (Or.inr rfl) (readMember_skipBlanks (readValue fuel))
      (readMember_closing (readValue fuel)) hparts hbetween rest
    simp only [List.cons_append, List.append_assoc, List.nil_append, readValue,
      skipBlanks_cons (c := '\x7b') rfl, hread]
    rfl

theorem ReadsAs.ofText {j found : JsonValue} (h : ReadsAs j found) :
    ofText? j.render = some found := by
  have hread := h.takes (j.chars.length + 1) (Nat.lt_succ_self _) [] ends_nil
  have hchars : j.render.toList = j.chars := String.toList_ofList
  have hlength : j.render.length = j.chars.length := by rw [← String.length_toList, hchars]
  rw [List.append_nil] at hread
  rw [ofText?, hlength, hchars, hread]
  rfl

example : ofText? "[1, ]" = none ∧ ofText? "[01]" = none ∧ ofText? "null null" = none :=
  ⟨rfl, rfl, rfl⟩

end JsonValue

end TableRecords
