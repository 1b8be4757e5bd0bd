/-! # Powers of two and of ten -/

namespace TableRecords

def twoPow (n : Nat) : Nat := Nat.pow 2 n

def tenPow (n : Nat) : Nat := Nat.pow 10 n

theorem twoPow_succ (n : Nat) : twoPow (n + 1) = 2 * twoPow n := Nat.mul_comm _ _

theorem tenPow_zero : tenPow 0 = 1 := rfl

end TableRecords
