import Mathlib
import TableRecords.Sql.Literal

/-! # Scanning statements

A scanner goes through the text of a statement from left to right and tells what stands outside of
string literals from what stands inside. Text that it reads as one statement is put together from
pieces that are harmless wherever they stand.
-/

namespace TableRecords

/-- What stands outside of literals, and whether the text ends inside of one. A quote opens or
closes a literal; two in a row inside of one stay inside. -/
def scan : Bool → List Char → List Char × Bool
  | inside, [] => ([], inside)
  | true, '\'' :: '\'' :: cs => scan true cs
  | true, '\'' :: cs => scan false cs
  | true, _ :: cs => scan true cs
  | false, '\'' :: cs => scan true cs
  | false, c :: cs => (c :: (scan false cs).1, (scan false cs).2)

def outside (sql : String) : List Char := (scan false sql.toList).1

/-- Text that is one statement: it ends outside of literals, and outside of them nothing ends a
statement, begins a comment or quotes a name. -/
structure IsSingleStatement (sql : String) : Prop where
  closed : (scan false sql.toList).2 = false
  unbroken : ∀ c ∈ outside sql, c ∉ [';', '"', '\x60', '[', ']']
  no_line_comment : ¬['-', '-'] <:+: outside sql
  no_block_comment : ¬['/', '*'] <:+: outside sql

/-- The scanner that takes each quote by itself: two in a row close a literal and open it again. -/
def toggle : Bool → List Char → List Char × Bool
  | inside, [] => ([], inside)
  | inside, c :: cs =>
    if c = '\'' then toggle (!inside) cs
    else ((if inside then [] else [c]) ++ (toggle inside cs).1, (toggle inside cs).2)

theorem toggle_quote (inside : Bool) (cs : List Char) :
    toggle inside ('\'' :: cs) = toggle (!inside) cs := by
  simp [toggle]

theorem toggle_inside {c : Char} (hc : c ≠ '\'') (cs : List Char) :
    toggle true (c :: cs) = toggle true cs := by
  simp [toggle, hc]

theorem toggle_outside {c : Char} (hc : c ≠ '\'') (cs : List Char) :
    toggle false (c :: cs) = (c :: (toggle false cs).1, (toggle false cs).2) := by
  simp [toggle, hc]

theorem scan_eq_toggle (inside : Bool) (cs : List Char) : scan inside cs = toggle inside cs := by
  induction inside, cs using scan.induct with
  | case1 inside => simp [scan, toggle]
  | case2 cs ih => simp [scan, toggle_quote, ih]
  | case3 cs _ ih => simp [scan, toggle_quote, ih]
  | case4 c cs _ hc ih => simp [scan, toggle_inside hc, ih]
  | case5 cs ih => simp [scan, toggle_quote, ih]
  | case6 c cs hc ih => simp [scan, toggle_outside hc, ih]

theorem toggle_append (inside : Bool) (cs ds : List Char) :
    toggle inside (cs ++ ds) =
      ((toggle inside cs).1 ++ (toggle (toggle inside cs).2 ds).1,
        (toggle (toggle inside cs).2 ds).2) := by
  induction cs generalizing inside with
  | nil => rfl
  | cons c cs ih =>
      by_cases hc : c = '\''
      · simp [toggle, hc, ih]
      · simp [toggle, hc, ih]

/-- Text outside of literals that stays harmless when more of it is put before or after it. A minus
may not be last, as another may follow. -/
structure Harmless (out : List Char) : Prop where
  allowed : ∀ c ∈ out, c ∉ [';', '"', '\x60', '[', ']', '/']
  apart : out.IsChain fun a b => ¬(a = '-' ∧ b = '-')
  ending : out.getLast? ≠ some '-'

theorem Harmless.append {out more : List Char} (h : Harmless out) (hm : Harmless more) :
    Harmless (out ++ more) where
  allowed c hc := (List.mem_append.1 hc).elim (h.allowed c) (hm.allowed c)
  apart := by
    refine List.isChain_append.2 ⟨h.apart, hm.apart, fun a ha b _ hab => h.ending ?_⟩
    rw [← hab.1]
    exact ha
  ending := by
    rw [List.getLast?_append]
    cases hlast : more.getLast? with
    | none => simpa using h.ending
    | some c => simpa [hlast] using hm.ending

/-- A piece of text takes the scanner from one state to another, and what it has outside of literals
is harmless. -/
structure Passes (before after : Bool) (piece : String) : Prop where
  state : (toggle before piece.toList).2 = after
  harmless : Harmless (toggle before piece.toList).1

/-- A piece of text that may stand anywhere outside of literals. -/
abbrev Inert (piece : String) : Prop := Passes false false piece

theorem Passes.append {a b c : Bool} {piece more : String} (h : Passes a b piece)
    (hm : Passes b c more) : Passes a c (piece ++ more) where
  state := by
    rw [String.toList_append, toggle_append, h.state]
    exact hm.state
  harmless := by
    rw [String.toList_append, toggle_append, h.state]
    exact h.harmless.append hm.harmless

instance (out : List Char) : Decidable (Harmless out) :=
  decidable_of_iff
    ((out.all fun c => decide (c ∉ [';', '"', '\x60', '[', ']', '/'])) = true ∧
      (out.IsChain fun a b => ¬(a = '-' ∧ b = '-')) ∧ out.getLast? ≠ some '-')
    ⟨fun h => ⟨by simpa using h.1, h.2.1, h.2.2⟩,
      fun h => ⟨by simpa using h.allowed, h.apart, h.ending⟩⟩

instance (before after : Bool) (piece : String) : Decidable (Passes before after piece) :=
  decidable_of_iff
    ((toggle before piece.toList).2 = after ∧ Harmless (toggle before piece.toList).1)
    ⟨fun h => ⟨h.1, h.2⟩, fun h => ⟨h.state, h.harmless⟩⟩

/-- What holds of pieces and passes to what they make holds of their intercalation. -/
theorem intercalate_of_append {P : String → Prop} (empty : P "")
    (append : ∀ {piece next : String}, P piece → P next → P (piece ++ next)) {separator : String}
    (hs : P separator) {pieces : List String} (h : ∀ piece ∈ pieces, P piece) :
    P (separator.intercalate pieces) := by
  induction pieces with
  | nil => rwa [String.intercalate_nil]
  | cons first rest ih =>
      cases rest with
      | nil =>
          rw [String.intercalate_singleton]
          exact h first (by simp)
      | cons second rest =>
          rw [String.intercalate_cons_cons]
          exact append (append (h first (by simp)) hs) (ih fun piece hp => h piece (by simp [hp]))

theorem Inert.intercalate {separator : String} (hs : Inert separator) {pieces : List String}
    (h : ∀ piece ∈ pieces, Inert piece) : Inert (separator.intercalate pieces) :=
  intercalate_of_append (by decide) Passes.append hs h

/-- A text that is inert as a whole is one statement. -/
theorem Inert.isSingleStatement {sql : String} (h : Inert sql) : IsSingleStatement sql where
  closed := by rw [scan_eq_toggle, h.state]
  unbroken c hc := by
    rw [outside, scan_eq_toggle] at hc
    have := h.harmless.allowed c hc
    simp only [List.mem_cons, List.not_mem_nil, or_false, not_or] at this ⊢
    tauto
  no_line_comment hi := by
    rw [outside, scan_eq_toggle] at hi
    have hpair := h.harmless.apart.infix hi
    simp at hpair
  no_block_comment hi := by
    rw [outside, scan_eq_toggle] at hi
    exact h.harmless.allowed '/' (hi.subset (by simp)) (by simp)

end TableRecords
