import TableRecords.Store.Basic

/-! # Repeated attempts

An action that fails may be tried again after a while. What repeats it is given; a policy tells it
which faults are met with another attempt, how many attempts there are, and how long to wait.
-/

namespace TableRecords

/-- The waits are in milliseconds: the first as long as `multiplier`, each further one twice as
long as the one before, but none shorter than `least` or longer than `most`. -/
structure RetryPolicy where
  attempts : Nat
  retried : FaultKind
  multiplier : Nat
  least : Nat
  most : Nat

def RetryPolicy.retries (policy : RetryPolicy) (fault : Fault) : Bool :=
  fault.kind == policy.retried

/-- How long to wait after an attempt; the first is number one. -/
def RetryPolicy.wait (policy : RetryPolicy) (number : Nat) : Nat :=
  max policy.least (min (policy.multiplier * twoPow (number - 1)) policy.most)

/-- What repeats an action, from the attempt with a number on and with a given way to wait. -/
structure Retrying where
  run {τ α : Type} : RetryPolicy → (Nat → Action τ Unit) → Action τ α → Nat → Action τ α

namespace Retrying

variable {τ α : Type}

/-- Makes an attempt, and up to `further` more after faults that are retried. -/
def attempts (policy : RetryPolicy) (wait : Nat → Action τ Unit) (action : Action τ α)
    (number : Nat) : Nat → Action τ α
  | 0 => action
  | further + 1 => do
    match ← action.attempt with
    | .ok a => pure a
    | .error fault =>
      if policy.retries fault then
        wait (policy.wait number)
        attempts policy wait action (number + 1) further
      else throw fault

def loop : Retrying where
  run policy wait action number := attempts policy wait action number (policy.attempts - number)

end Retrying

end TableRecords
