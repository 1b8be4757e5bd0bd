import TableRecords.Fault

/-! # Keys

What makes two values the same key of a map, and how entries are looked up and set by key. Numbers
are the same key when they are the same number, whatever their types; truth values count as zero
and one. A key keeps its place and its spelling when its value is set again.
-/

namespace TableRecords

/-- An exact quantity: a quotient times a power of ten, or an infinite one. -/
inductive Quantity where
  | finite (numerator : Int) (denominator : Nat) (exponent : Int)
  | infinite (negative : Bool)
deriving Repr

namespace Quantity

/-- Whether `n * 10 ^ places` is `m`. A power that is greater than `m` is not formed. -/
def shiftsTo (n m : Int) (places : Nat) : Bool :=
  if n = 0 then m == 0 else places ≤ m.natAbs.log2 && n * tenPow places == m

def same : Quantity → Quantity → Bool
  | finite n d e, finite m f g =>
    if g ≤ e then shiftsTo (n * f) (m * d) (e - g).toNat
    else shiftsTo (m * d) (n * f) (g - e).toNat
  | infinite a, infinite b => a == b
  | _, _ => false

def isPositive : Quantity → Bool
  | finite n _ _ => 0 < n
  | infinite negative => !negative

end Quantity

def signedNat (negative : Bool) (n : Nat) : Int := if negative then -(n : Int) else n

namespace Value

def quantity? : Value → Option Quantity
  | bool b => some (.finite b.toNat 1 0)
  | int n => some (.finite n 1 0)
  | real (.finite negative x) => some (.finite (signedNat negative x.units) Magnitude.one 0)
  | real (.infinite negative) => some (.infinite negative)
  | decimal (.finite negative coefficient exponent) =>
    some (.finite (signedNat negative coefficient) 1 exponent)
  | decimal (.infinite negative) => some (.infinite negative)
  | _ => none

/-- Whether two values are the same key. A list, a map and what is not a number are the same key as
nothing. -/
def same : Value → Value → Bool
  | null, null => true
  | text s, text t => s == t
  | blob a, blob b => a == b
  | v, w =>
    match v.quantity?, w.quantity? with
    | some p, some q => p.same q
    | _, _ => false

@[simp] theorem same_text (s t : String) : (text s).same (text t) = (s == t) := rfl

def isSignalling : Value → Bool
  | decimal (.nan _ signalling _) => signalling
  | _ => false

def checkKey (v : Value) : Except Fault Unit :=
  match v with
  | list _ | map _ => .error (.notAKey v.typeName)
  | _ => if v.isSignalling then .error .signallingKey else .ok ()

def nameText : Value → Except Fault String
  | text name => .ok name
  | blob _ => .error .bytesBeginning
  | key => .error (.noMember key.typeName "startswith")

end Value

namespace Entries

variable {α : Type}

def find? (entries : List (Value × α)) (key : Value) : Option (Value × α) :=
  entries.find? fun entry => entry.1.same key

/-- Entries with the value of a key set: in its place, or at the end if the key is new. -/
def assign (key : Value) (a : α) : List (Value × α) → List (Value × α)
  | [] => [(key, a)]
  | entry :: rest =>
    if entry.1.same key then (entry.1, a) :: rest else entry :: assign key a rest

/-- The entries that stand before every other entry of the same key. -/
def firsts : List (Value × α) → List (Value × α)
  | [] => []
  | entry :: rest => entry :: (firsts rest).filter fun other => !entry.1.same other.1

/-- Whether no entry has the same key as one before it. -/
def Distinct (entries : List (Value × α)) : Prop :=
  entries.Pairwise fun a b => a.1.same b.1 = false

theorem mem_keys_assign {key : Value} {a : α} {entries : List (Value × α)} {entry : Value × α}
    (h : entry ∈ assign key a entries) :
    entry.1 ∈ entries.map Prod.fst ∨ entry.1 = key := by
  induction entries with
  | nil => simp_all [assign]
  | cons first rest ih =>
    by_cases hs : first.1.same key
    · simp only [assign, hs, if_true, List.mem_cons] at h
      rcases h with rfl | h
      · simp
      · exact Or.inl (List.mem_cons_of_mem _ (List.mem_map_of_mem h))
    · simp only [assign, hs] at h
      rcases List.mem_cons.1 h with rfl | h
      · simp
      · rcases ih h with h | h
        · exact Or.inl (List.mem_cons_of_mem _ h)
        · exact Or.inr h

theorem key_mem_assign {key other : Value} {a : α} {entries : List (Value × α)}
    (h : other ∈ entries.map Prod.fst) : other ∈ (assign key a entries).map Prod.fst := by
  induction entries with
  | nil => simp at h
  | cons first rest ih =>
    by_cases hs : first.1.same key
    · simpa [assign, hs] using h
    · rcases List.mem_cons.1 h with rfl | h
      · simp [assign, hs]
      · simpa [assign, hs] using Or.inr (by simpa using ih h)

theorem distinct_assign {key : Value} {a : α} {entries : List (Value × α)}
    (h : Distinct entries) : Distinct (assign key a entries) := by
  induction entries with
  | nil => simp [Distinct, assign]
  | cons first rest ih =>
    obtain ⟨apart, h⟩ := List.pairwise_cons.1 h
    by_cases hs : first.1.same key
    · simp only [assign, hs, if_true]
      exact List.pairwise_cons.2 ⟨apart, h⟩
    · simp only [assign, hs]
      refine List.pairwise_cons.2 ⟨fun entry he => ?_, ih h⟩
      rcases mem_keys_assign he with hk | hk
      · obtain ⟨other, ho, hk⟩ := List.mem_map.1 hk
        exact hk ▸ apart other ho
      · simpa [hk] using hs

theorem distinct_firsts (entries : List (Value × α)) : Distinct (firsts entries) := by
  induction entries with
  | nil => exact List.Pairwise.nil
  | cons first rest ih =>
    refine List.pairwise_cons.2 ⟨fun entry he => ?_, ih.sublist List.filter_sublist⟩
    simpa using (List.mem_filter.1 he).2

end Entries

end TableRecords
