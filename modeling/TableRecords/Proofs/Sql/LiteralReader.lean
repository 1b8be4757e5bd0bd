import Mathlib
import TableRecords.Proofs.Number.Numeral
import TableRecords.Proofs.Text.Hex
import TableRecords.Sql.Literal

/-! # Reading literals

A reader takes what it understands from the front of a text and leaves the rest. The reader of
literals knows `NULL`, numbers, text between quotes with its quotes doubled, and text spelled by its
bytes. Every value is written as one such literal, and the reader takes exactly that literal from
any text that begins with it and goes on, if at all, with a space.
-/

namespace TableRecords

/-- What was read from the front of a text, and what follows. -/
abbrev Reader : Type := List Char → Option (List Char × List Char)

/-- The rest of a text literal up to the quote that ends it; two quotes in a row do not. -/
def readQuoted : Reader
  | [] => none
  | '\'' :: '\'' :: rest => (readQuoted rest).map fun found => ('\'' :: '\'' :: found.1, found.2)
  | '\'' :: rest => some (['\''], rest)
  | c :: rest => (readQuoted rest).map fun found => (c :: found.1, found.2)

def bytesOpening : List Char := ['C', 'A', 'S', 'T', '(', 'X', '\'']

def bytesClosing : List Char := ['\'', ' ', 'A', 'S', ' ', 'T', 'E', 'X', 'T', ')']

def readBytes : Reader := fun cs => do
  let cs ← cs.dropPrefix? bytesOpening
  let (digits, cs) := cs.span (· != '\'')
  let _ ← bytesOfHex? digits
  let cs ← cs.dropPrefix? bytesClosing
  pure (bytesOpening ++ (digits ++ bytesClosing), cs)

def nullWord : List Char := ['N', 'U', 'L', 'L']

def isNumeralWord : List Char → Bool
  | '-' :: word => (Scientific.ofChars? word).isSome
  | word => (Scientific.ofChars? word).isSome

def readWord : Reader := fun cs =>
  let (word, cs) := cs.span (· != ' ')
  if word = nullWord ∨ isNumeralWord word then some (word, cs) else none

def readLiteral : Reader
  | '\'' :: cs => (readQuoted cs).map fun found => ('\'' :: found.1, found.2)
  | cs => (readBytes cs).or (readWord cs)

def quotedChars (cs : List Char) : List Char := '\'' :: (doubleQuotes cs ++ ['\''])

def bytesChars (bytes : List UInt8) : List Char :=
  bytesOpening ++ ((hexChars bytes).map Char.toUpper ++ bytesClosing)

/-- The forms of a literal. -/
inductive IsLiteral : List Char → Prop
  | null : IsLiteral nullWord
  | number {cs : List Char} (h : IsNumber cs) : IsLiteral cs
  | quoted (cs : List Char) : IsLiteral (quotedChars cs)
  | bytes (bytes : List UInt8) : IsLiteral (bytesChars bytes)

theorem textLiteral_of_zero {s : String} (h : '\x00' ∈ s.toList) :
    (textLiteral s).toList = bytesChars (utf8Bytes s) := by
  simp only [textLiteral, if_pos h, String.toList_append, String.toList_ofList]
  rfl

theorem textLiteral_of_no_zero {s : String} (h : '\x00' ∉ s.toList) :
    (textLiteral s).toList = quotedChars s.toList := by
  simp only [textLiteral, if_neg h, String.toList_append, String.toList_ofList]
  rfl

theorem isLiteral_textLiteral (s : String) : IsLiteral (textLiteral s).toList := by
  by_cases h : '\x00' ∈ s.toList
  · rw [textLiteral_of_zero h]
    exact .bytes _
  · rw [textLiteral_of_no_zero h]
    exact .quoted _

theorem isDigit_of_mem_nil : ∀ c ∈ ([] : List Char), c.isDigit = true := by simp

theorem areDigits_nine : AreDigits ['9'] := by simp [AreDigits]

theorem isDigit_of_mem_nines : ∀ c ∈ ['9', '9', '9'], c.isDigit = true := by simp

def beyondAll : Numeral where
  whole := ['9']
  exponent := ['9', '9', '9']
  whole_digits := areDigits_nine
  fraction_digits := isDigit_of_mem_nil
  exponent_digits := isDigit_of_mem_nines

theorem isLiteral_realLiteral (x : Binary64) : IsLiteral (realLiteral x).toList := by
  match x with
  | .nan => exact .null
  | .infinite true => exact .number ⟨true, beyondAll, rfl⟩
  | .infinite false => exact .number ⟨false, beyondAll, rfl⟩
  | .finite negative x => exact .number (isNumber_finite negative x)

theorem isLiteral_quote (v : Value) : IsLiteral (quote v).toList := by
  match v with
  | .null => exact .null
  | .bool true => exact .number (isNumber_toString 1)
  | .bool false => exact .number (isNumber_toString 0)
  | .int n =>
      by_cases h : fitsInt64 n = true
      · simp only [quote, if_pos h]
        exact .number (isNumber_toString n)
      · simp only [quote, if_neg h]
        exact isLiteral_realLiteral _
  | .real x => exact isLiteral_realLiteral x
  | .text _ | .blob _ | .decimal _ | .list _ | .map _ => exact isLiteral_textLiteral _

theorem readQuoted_cons {c : Char} (hc : c ≠ '\'') (cs : List Char) :
    readQuoted (c :: cs) = (readQuoted cs).map fun found => (c :: found.1, found.2) := by
  rw [readQuoted.eq_def]
  split <;> simp_all

theorem readQuoted_doubleQuotes (cs : List Char) {rest : List Char}
    (boundary : ∀ c ∈ rest.head?, c ≠ '\'') :
    readQuoted (doubleQuotes cs ++ '\'' :: rest) = some (doubleQuotes cs ++ ['\''], rest) := by
  induction cs using doubleQuotes.induct with
  | case1 =>
      cases rest with
      | nil => rfl
      | cons c rest =>
          have hc : c ≠ '\'' := boundary c (by simp)
          simp [doubleQuotes, readQuoted, hc]
  | case2 rest ih => simp [doubleQuotes, readQuoted, ih]
  | case3 c cs hc ih => simp [doubleQuotes, readQuoted_cons hc, ih]

theorem ne_quote_of_mem_hexChars {bytes : List UInt8} {c : Char}
    (hc : c ∈ (hexChars bytes).map Char.toUpper) : c ≠ '\'' := by
  have hdigit : ∀ d < 16, (Nat.digitChar d).toUpper ≠ '\'' := by decide
  obtain ⟨d, hd, rfl⟩ := mem_hexChars hc
  exact hdigit d hd

theorem readBytes_bytesChars (bytes : List UInt8) (rest : List Char) :
    readBytes (bytesChars bytes ++ rest) = some (bytesChars bytes, rest) := by
  have hspan : ((hexChars bytes).map Char.toUpper ++ (bytesClosing ++ rest)).span (· != '\'') =
      ((hexChars bytes).map Char.toUpper, bytesClosing ++ rest) :=
    span_append (fun c hc => by simpa using ne_quote_of_mem_hexChars hc) (by simp [bytesClosing])
  unfold readBytes bytesChars
  rw [List.append_assoc, List.dropPrefix?_append_of_beq _ (BEq.rfl), List.append_assoc]
  simp only [Option.bind_eq_bind, Option.bind_some, hspan, bytesOfHex_hexChars,
    List.dropPrefix?_append_of_beq _ (BEq.rfl (a := bytesClosing))]
  rfl

theorem IsNumber.isNumeralWord {cs : List Char} (h : IsNumber cs) : isNumeralWord cs = true := by
  obtain ⟨negative, n, rfl⟩ := h
  cases negative with
  | true => simp [TableRecords.isNumeralWord, n.ofChars_chars]
  | false =>
      obtain ⟨d, rest, hc, hd⟩ := n.chars_eq_cons
      have hminus : d ≠ '-' := by rintro rfl; simp at hd
      have hr := n.ofChars_chars
      simp only [Bool.false_eq_true, if_false, List.nil_append]
      rw [hc] at hr ⊢
      simp [TableRecords.isNumeralWord, hminus, hr]

theorem readWord_append {word rest : List Char} (hw : word = nullWord ∨ isNumeralWord word = true)
    (inside : ∀ c ∈ word, c ≠ ' ') (boundary : ∀ c ∈ rest.head?, c = ' ') :
    readWord (word ++ rest) = some (word, rest) := by
  have hspan : (word ++ rest).span (· != ' ') = (word, rest) :=
    span_append (fun c hc => by simpa using inside c hc) (fun c hc => by simpa using boundary c hc)
  unfold readWord
  rw [hspan]
  exact if_pos hw

theorem readBytes_of_head {c : Char} (hc : c ≠ 'C') (cs : List Char) :
    readBytes (c :: cs) = none := by
  simp [readBytes, bytesOpening, List.dropPrefix?, hc]

theorem readLiteral_of_head {c : Char} (hq : c ≠ '\'') (cs : List Char) :
    readLiteral (c :: cs) = (readBytes (c :: cs)).or (readWord (c :: cs)) := by
  rw [readLiteral.eq_def]
  split <;> simp_all

/-- A literal is read whole from a text in which it is followed by nothing or by a space. -/
theorem IsLiteral.read {cs : List Char} (h : IsLiteral cs) {rest : List Char}
    (boundary : ∀ c ∈ rest.head?, c = ' ') : readLiteral (cs ++ rest) = some (cs, rest) := by
  cases h with
  | null =>
      have hw := readWord_append (Or.inl rfl) (by simp [nullWord]) boundary
      change readLiteral ('N' :: _) = _
      rw [readLiteral_of_head (by decide), readBytes_of_head (by decide), Option.none_or]
      exact hw
  | number hn =>
      have hw := readWord_append (Or.inr hn.isNumeralWord)
        (fun c hc => by rintro rfl; simpa [isNumberChar] using hn.isNumberChar_of_mem hc) boundary
      obtain ⟨c, word, rfl, hc⟩ := hn.head
      have hq : c ≠ '\'' := by rintro rfl; simp at hc
      have hC : c ≠ 'C' := by rintro rfl; simp at hc
      rw [List.cons_append] at hw ⊢
      rw [readLiteral_of_head hq, readBytes_of_head hC, Option.none_or]
      exact hw
  | quoted cs =>
      have hq : ∀ c ∈ rest.head?, c ≠ '\'' := by
        intro c hc
        rw [boundary c hc]
        decide
      simp [quotedChars, readLiteral, readQuoted_doubleQuotes cs hq]
  | bytes bytes =>
      have hb := readBytes_bytesChars bytes rest
      change readLiteral ('C' :: _) = _
      rw [readLiteral_of_head (by decide)]
      change (readBytes (bytesChars bytes ++ rest)).or _ = _
      rw [hb]
      rfl

end TableRecords
