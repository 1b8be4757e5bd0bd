/-! # Code points

Text that may hold halves of surrogate pairs, which no string can. Messages are made of it, as a
template can ask for any code point by its number.
-/

namespace TableRecords

abbrev CodePoints := List Nat

namespace CodePoints

def ofChars (cs : List Char) : CodePoints := cs.map Char.toNat

def ofString (s : String) : CodePoints := ofChars s.toList

/-- The code points as characters, if none is half of a surrogate pair. -/
def toChars? (points : CodePoints) : Option (List Char) :=
  points.mapM fun n => if n.isValidChar then some (Char.ofNat n) else none

def toString? (points : CodePoints) : Option String := String.ofList <$> toChars? points

theorem toChars?_ofChars (cs : List Char) : toChars? (ofChars cs) = some cs := by
  unfold toChars? ofChars
  induction cs with
  | nil => rfl
  | cons c rest ih =>
    have valid : c.toNat.isValidChar := c.valid
    simp [List.mapM_cons, ih, valid, Char.ofNat_toNat]

end CodePoints

end TableRecords
