import Mathlib
import TableRecords.Proofs.Sql.LiteralReader

/-! # What a literal denotes

A store keeps a value in one of a few classes. It finds the class and the value of a parameter by
what was bound, and those of a literal by how it is spelled. For scalars the two ways agree: a
literal written for a value denotes what the store would keep of the value when bound.
-/

namespace TableRecords

inductive StoredValue where
  | null
  | integer (n : Int)
  | real (x : Binary64)
  | text (s : String)
  | blob (bytes : List UInt8)
deriving DecidableEq, Repr

/-- A value that has a storage class of its own and is text, a number, a truth value or none. -/
def Value.IsScalar : Value → Prop
  | .null | .bool _ | .int _ | .real _ | .text _ => True
  | _ => False

namespace StoredValue

/-- What a store keeps of a bound value. It has no class for an integer beyond 64 bits, for a
decimal or for a collection, and "not a number" it keeps as null. -/
def ofBound? : Value → Option StoredValue
  | .null => some null
  | .bool b => some (integer b.toNat)
  | .int n => if fitsInt64 n then some (integer n) else none
  | .real .nan => some null
  | .real x => some (real x)
  | .text s => some (text s)
  | .blob bytes => some (blob bytes)
  | _ => none

/-! ## Literals -/

/-- An unsigned numeral after its sign: digits alone are an integer, unless it is beyond 64 bits,
and all else is real. -/
def ofNumeral? (negative : Bool) (cs : List Char) : Option StoredValue :=
  if cs ≠ [] ∧ cs.all Char.isDigit then
    let n : Int := ofDecimalDigits cs
    let signed := if negative then -n else n
    some (if fitsInt64 signed then integer signed else real (.ofInt signed))
  else (Scientific.ofChars? cs).map fun x => real (.ofScientific negative x)

def unquote? : List Char → Option (List Char)
  | [] => none
  | ['\''] => some []
  | '\'' :: '\'' :: rest => (unquote? rest).map ('\'' :: ·)
  | '\'' :: _ => none
  | c :: rest => (unquote? rest).map (c :: ·)

def ofBytes? (cs : List Char) : Option StoredValue := do
  let cs ← cs.dropPrefix? bytesOpening
  let (digits, cs) := cs.span (· != '\'')
  let bytes ← bytesOfHex? digits
  let s ← textOfUtf8? bytes
  if cs = bytesClosing then some (text s) else none

/-- What a literal denotes. -/
def ofLiteral? (cs : List Char) : Option StoredValue :=
  if cs = nullWord then some null
  else
    match cs with
    | '\'' :: rest => (unquote? rest).map fun content => text (String.ofList content)
    | 'C' :: _ => ofBytes? cs
    | '-' :: rest => ofNumeral? true rest
    | _ => ofNumeral? false cs

theorem ofNumeral_digits (negative : Bool) {ds : List Char} (h : AreDigits ds) :
    ofNumeral? negative ds =
      let n : Int := ofDecimalDigits ds
      let signed := if negative then -n else n
      some (if fitsInt64 signed then integer signed else real (.ofInt signed)) :=
  if_pos ⟨h.1, List.all_eq_true.2 h.2⟩

theorem ofNumeral_real (negative : Bool) {n : Numeral} (h : n.IsReal) :
    ofNumeral? negative n.chars = some (real (.ofScientific negative n.scientific)) := by
  have hmark : ∃ c ∈ n.chars, c.isDigit = false := by
    rcases h with h | h
    · exact ⟨'.', by simp [Numeral.chars, Numeral.pointed, h], rfl⟩
    · exact ⟨'e', by simp [Numeral.chars, Numeral.marked, h], rfl⟩
  obtain ⟨c, hc, hdigit⟩ := hmark
  have hnot : ¬(n.chars ≠ [] ∧ n.chars.all Char.isDigit = true) := by
    rintro ⟨-, hall⟩
    have hd := List.all_eq_true.1 hall c hc
    rw [hdigit] at hd
    cases hd
  rw [ofNumeral?, if_neg hnot, n.ofChars_chars]
  rfl

theorem ofLiteral_numeral (negative : Bool) {cs : List Char}
    (h : ∃ d rest, cs = d :: rest ∧ d.isDigit = true) :
    ofLiteral? ((if negative then ['-'] else []) ++ cs) = ofNumeral? negative cs := by
  obtain ⟨d, rest, rfl, hd⟩ := h
  cases negative with
  | true => rfl
  | false =>
      have hnull : d ≠ 'N' := by rintro rfl; cases hd
      have hquote : d ≠ '\'' := by rintro rfl; cases hd
      have hcast : d ≠ 'C' := by rintro rfl; cases hd
      have hminus : d ≠ '-' := by rintro rfl; cases hd
      simp [ofLiteral?, nullWord, hnull, hquote, hcast, hminus]

theorem ofLiteral_integer {n : Int} (h : fitsInt64 n = true) :
    ofLiteral? (toString n).toList = some (integer n) := by
  have hsigned : (toString n).toList =
      (if decide (n < 0) then ['-'] else []) ++ Nat.toDigits 10 n.natAbs := by
    rw [Int.toString_eq_repr, Int.repr_eq_if]
    by_cases hn : n < 0
    · have habs : (-n).toNat = n.natAbs := by omega
      simp [hn, Int.not_le.2 hn, habs]
    · have habs : n.toNat = n.natAbs := by omega
      simp [hn, Int.not_lt.1 hn, habs]
  have hvalue : (if decide (n < 0) then -(n.natAbs : Int) else n.natAbs) = n := by
    simp only [decide_eq_true_eq]
    omega
  have hdigits := areDigits_toDigits n.natAbs
  obtain ⟨d, rest, hcons⟩ := List.exists_cons_of_ne_nil hdigits.1
  rw [hsigned, ofLiteral_numeral _ ⟨d, rest, hcons, hdigits.2 d (by simp [hcons])⟩,
    ofNumeral_digits _ hdigits, ofDecimalDigits_toDigits]
  dsimp only
  rw [hvalue, if_pos h]

theorem ofLiteral_finite (negative : Bool) (x : Magnitude) :
    ofLiteral? (Binary64.finite negative x).toText.toList = some (real (.finite negative x)) := by
  obtain ⟨n, hn, hreal, hread⟩ := x.decimalChars_numeral
  have hchars : (Binary64.finite negative x).toText.toList =
      (if negative then ['-'] else []) ++ n.chars := by
    simp [Binary64.toText, hn]
  rw [hchars, ofLiteral_numeral negative n.chars_eq_cons, ofNumeral_real negative hreal, hread]

theorem ofScientific_beyondAll (negative : Bool) :
    Binary64.ofScientific negative beyondAll.scientific = .infinite negative :=
  (if_neg (by decide)).trans (if_pos (by decide))

theorem ofLiteral_infinite (negative : Bool) :
    ofLiteral? (realLiteral (.infinite negative)).toList = some (real (.infinite negative)) := by
  have hchars : (realLiteral (.infinite negative)).toList =
      (if negative then ['-'] else []) ++ beyondAll.chars := by
    cases negative <;> rfl
  rw [hchars, ofLiteral_numeral negative beyondAll.chars_eq_cons,
    ofNumeral_real negative (Or.inr (by simp [beyondAll])), ofScientific_beyondAll]

theorem ofLiteral_realLiteral (x : Binary64) :
    ofLiteral? (realLiteral x).toList = ofBound? (.real x) := by
  match x with
  | .nan => rfl
  | .infinite negative => exact ofLiteral_infinite negative
  | .finite negative x => exact ofLiteral_finite negative x

theorem unquote_cons {c : Char} (hc : c ≠ '\'') (cs : List Char) :
    unquote? (c :: cs) = (unquote? cs).map (c :: ·) := by
  rw [unquote?.eq_def]
  split <;> simp_all

theorem unquote_doubleQuotes (cs : List Char) : unquote? (doubleQuotes cs ++ ['\'']) = some cs := by
  induction cs using doubleQuotes.induct with
  | case1 => rfl
  | case2 rest ih => simp [doubleQuotes, unquote?, ih]
  | case3 c cs hc ih => simp [doubleQuotes, unquote_cons hc, ih]

theorem textOfUtf8_utf8Bytes (s : String) : textOfUtf8? (utf8Bytes s) = some s := by
  unfold textOfUtf8? utf8Bytes String.fromUTF8?
  rw [Array.toArray_toList, String.toUTF8_eq_toByteArray, dif_pos s.isValidUTF8]
  rfl

theorem ofBytes_bytesChars (s : String) : ofBytes? (bytesChars (utf8Bytes s)) = some (text s) := by
  have hspan : ((hexChars (utf8Bytes s)).map Char.toUpper ++ bytesClosing).span (· != '\'') =
      ((hexChars (utf8Bytes s)).map Char.toUpper, bytesClosing) :=
    span_append (fun c hc => by simpa using ne_quote_of_mem_hexChars hc) (by simp [bytesClosing])
  unfold ofBytes? bytesChars
  rw [List.dropPrefix?_append_of_beq _ (BEq.rfl)]
  simp only [Option.bind_eq_bind, Option.bind_some, hspan, bytesOfHex_hexChars,
    textOfUtf8_utf8Bytes, if_true]

theorem ofLiteral_textLiteral (s : String) : ofLiteral? (textLiteral s).toList = some (text s) := by
  by_cases h : '\x00' ∈ s.toList
  · rw [textLiteral_of_zero h]
    exact ofBytes_bytesChars s
  · rw [textLiteral_of_no_zero h]
    change (unquote? _).map _ = _
    rw [unquote_doubleQuotes, Option.map_some, String.ofList_toList]

theorem ofLiteral_quote {v : Value} (h : v.IsScalar) :
    ofLiteral? (quote v).toList = ofBound? (bindable v) := by
  match v with
  | .null => rfl
  | .bool true | .bool false => rfl
  | .int n =>
      by_cases hn : fitsInt64 n = true
      · simp only [quote, bindable, if_pos hn, ofBound?]
        exact ofLiteral_integer hn
      · simp only [quote, bindable, if_neg hn]
        exact ofLiteral_realLiteral _
  | .real x => exact ofLiteral_realLiteral x
  | .text s => exact ofLiteral_textLiteral s

theorem ofBound_bindable {v : Value} (h : v.IsScalar) :
    ∃ kept, ofBound? (bindable v) = some kept := by
  have hreal : ∀ x, ∃ kept, ofBound? (.real x) = some kept := by
    rintro (_ | negative | ⟨negative, x⟩)
    · exact ⟨null, rfl⟩
    · exact ⟨real _, rfl⟩
    · exact ⟨real _, rfl⟩
  match v with
  | .null => exact ⟨null, rfl⟩
  | .bool b => exact ⟨integer b.toNat, rfl⟩
  | .int n =>
      by_cases hn : fitsInt64 n = true
      · exact ⟨integer n, by simp only [bindable, if_pos hn, ofBound?]⟩
      · simp only [bindable, if_neg hn]
        exact hreal _
  | .real x => exact hreal x
  | .text s => exact ⟨text s, rfl⟩

end StoredValue

theorem IsNumber.zero_not_mem {cs : List Char} (h : IsNumber cs) : '\x00' ∉ cs :=
  fun hc => by simpa [isNumberChar] using h.isNumberChar_of_mem hc

theorem mem_of_mem_doubleQuotes {c : Char} {cs : List Char} (h : c ∈ doubleQuotes cs) : c ∈ cs := by
  induction cs using doubleQuotes.induct with
  | case1 => exact h
  | case2 rest ih =>
      simp only [doubleQuotes, List.mem_cons] at h ⊢
      rcases h with h | h | h
      · exact Or.inl h
      · exact Or.inl h
      · exact Or.inr (ih h)
  | case3 d cs hd ih =>
      simp only [doubleQuotes, List.mem_cons] at h ⊢
      exact h.imp_right ih

theorem zero_not_mem_textLiteral (s : String) : '\x00' ∉ (textLiteral s).toList := by
  by_cases h : '\x00' ∈ s.toList
  · have hdigit : ∀ d < 16, (Nat.digitChar d).toUpper ≠ '\x00' := by decide
    have hhex : '\x00' ∉ (hexChars (utf8Bytes s)).map Char.toUpper := fun hc =>
      let ⟨d, hd, hzero⟩ := mem_hexChars hc
      hdigit d hd hzero.symm
    rw [textLiteral_of_zero h]
    simp [bytesChars, bytesOpening, bytesClosing, hhex]
  · have hquoted : '\x00' ∉ doubleQuotes s.toList := fun hc => h (mem_of_mem_doubleQuotes hc)
    rw [textLiteral_of_no_zero h]
    simp [quotedChars, hquoted]

theorem zero_not_mem_realLiteral (x : Binary64) : '\x00' ∉ (realLiteral x).toList := by
  match x with
  | .nan => decide
  | .infinite true | .infinite false => decide
  | .finite negative x => exact (isNumber_finite negative x).zero_not_mem

/-- No literal holds the character that no statement may hold. -/
theorem zero_not_mem_quote (v : Value) : '\x00' ∉ (quote v).toList := by
  match v with
  | .null => decide
  | .bool true | .bool false => decide
  | .int n =>
      by_cases hn : fitsInt64 n = true
      · simp only [quote, if_pos hn]
        exact (isNumber_toString n).zero_not_mem
      · simp only [quote, if_neg hn]
        exact zero_not_mem_realLiteral _
  | .real x => exact zero_not_mem_realLiteral x
  | .text _ | .blob _ | .decimal _ | .list _ | .map _ => exact zero_not_mem_textLiteral _

/-- The literal of a scalar is one complete literal that holds no character zero, and it denotes
what the store keeps of the scalar when it is bound. -/
theorem literal_denotes_bound (v : Value) (scalar : v.IsScalar) :
    '\x00' ∉ (quote v).toList ∧ readLiteral (quote v).toList = some ((quote v).toList, []) ∧
      ∃ kept, StoredValue.ofLiteral? (quote v).toList = some kept ∧
        StoredValue.ofBound? (bindable v) = some kept := by
  have hread : readLiteral ((quote v).toList ++ []) = some ((quote v).toList, []) :=
    (isLiteral_quote v).read (by simp)
  obtain ⟨kept, hkept⟩ := StoredValue.ofBound_bindable scalar
  refine ⟨zero_not_mem_quote v, ?_, kept, ?_, hkept⟩
  · rw [← hread, List.append_nil]
  · rw [StoredValue.ofLiteral_quote scalar, hkept]

theorem literal_denotes_bound_apostrophe : (Value.text "it's").IsScalar ∧
    StoredValue.ofLiteral? (quote (.text "it's")).toList = some (.text "it's") := by
  obtain ⟨-, -, kept, hliteral, hbound⟩ := literal_denotes_bound (.text "it's") trivial
  exact ⟨trivial, hliteral.trans hbound.symm⟩

end TableRecords
