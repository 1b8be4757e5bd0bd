import TableRecords.Value.Key

/-! # Equality of values

Scalars are equal when they are the same key of a map. Lists are compared item by item, and maps
without regard to the order of their entries. A comparison of numbers that comes upon a signalling
"not a number" has no outcome.
-/

namespace TableRecords

namespace Value

def isNumber : Value → Bool
  | bool _ | int _ | real _ | decimal _ => true
  | _ => false

mutual

/-- Whether two values are equal; none when a comparison without an outcome would decide. -/
def equal? : Value → Value → Option Bool
  | list a, list b => if a.length == b.length then equalItems? a b else some false
  | map a, map b => if a.length == b.length then includedIn? a b else some false
  | v, w =>
    if v.isNumber && w.isNumber && (v.isSignalling || w.isSignalling) then none
    else some (v.same w)

def equalItems? : List Value → List Value → Option Bool
  | v :: rest, w :: others => do
    if ← v.equal? w then equalItems? rest others else some false
  | _, _ => some true

/-- Whether each entry of a map has an equal entry among `others`. -/
def includedIn? : List (Value × Value) → List (Value × Value) → Option Bool
  | [], _ => some true
  | (k, v) :: rest, others =>
    match Entries.find? others k with
    | some other => do
      if ← v.equal? other.2 then includedIn? rest others else some false
    | none => some false

end

def equalsItself? : Value → Option Bool
  | real .nan => some false
  | decimal (.nan _ signalling _) => if signalling then none else some false
  | _ => some true

end Value

def comparison : Option Bool → Except Fault Bool
  | some equal => .ok equal
  | none => .error .undefinedComparison

end TableRecords
