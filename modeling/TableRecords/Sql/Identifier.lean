import TableRecords.Fault

/-! # Identifiers

A name that may stand in SQL text as it is: ASCII letters, digits and underscores, no digit first.
An `Identifier` carries the proof of it, so whatever is built from identifiers needs no check.
-/

namespace TableRecords

def isNameStart (c : Char) : Bool := c.isAlpha || c == '_'

def isNameChar (c : Char) : Bool := c.isAlphanum || c == '_'

def spellsIdentifier : List Char → Bool
  | [] => false
  | c :: rest => isNameStart c && rest.all isNameChar

structure Identifier where
  text : String
  spelled : spellsIdentifier text.toList = true
deriving DecidableEq

namespace Identifier

instance : Repr Identifier := ⟨fun name _ => repr name.text⟩

def ofText? (text : String) : Option Identifier :=
  if h : spellsIdentifier text.toList = true then some ⟨text, h⟩ else none

/-- The value as an identifier; the context says in the fault what the name is for. -/
def ofValue (context : String) (v : Value) : Except Fault Identifier :=
  match v with
  | .text s =>
    match ofText? s with
    | some name => .ok name
    | none => .error (.invalidIdentifier v context)
  | _ => .error (.invalidIdentifier v context)

def ofValues (context : String) (vs : List Value) : Except Fault (List Identifier) :=
  vs.mapM (ofValue context)

def toValue (name : Identifier) : Value := .text name.text

theorem spells_append {first rest : List Char} (h : spellsIdentifier first = true)
    (chars : rest.all isNameChar = true) : spellsIdentifier (first ++ rest) = true := by
  cases first with
  | nil => simp [spellsIdentifier] at h
  | cons c cs =>
    simp only [spellsIdentifier, Bool.and_eq_true] at h
    simp only [List.cons_append, spellsIdentifier, List.all_append, Bool.and_eq_true]
    exact ⟨h.1, h.2, chars⟩

def extend (name : Identifier) (ending : String)
    (chars : ending.toList.all isNameChar = true) : Identifier where
  text := name.text ++ ending
  spelled := by
    rw [String.toList_append]
    exact spells_append name.spelled chars

end Identifier

def Value.isIdentifier (v : Value) : Bool :=
  match v with
  | .text s => (Identifier.ofText? s).isSome
  | _ => false

def primaryKey : Identifier := ⟨"id", by decide⟩

end TableRecords
