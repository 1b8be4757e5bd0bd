import TableRecords.Problem

/-! # Checked values

Checks that gather problems instead of stopping at the first: a group of values passes if every
one does, and otherwise reports the problems of all, in the order of the checks.
-/

namespace TableRecords

/-- A value that passed its checks, or what is wrong with it. -/
structure Checked (α : Type) where
  outcome : Except (List Problem) α

namespace Checked

variable {α β : Type}

def passed (a : α) : Checked α := ⟨.ok a⟩

def failed (problems : List Problem) : Checked α := ⟨.error problems⟩

def problems (c : Checked α) : List Problem :=
  match c.outcome with
  | .ok _ => []
  | .error found => found

def both (f : Checked (α → β)) (a : Checked α) : Checked β :=
  match f.outcome, a.outcome with
  | .ok f, .ok a => passed (f a)
  | _, _ => failed (f.problems ++ a.problems)

instance : Applicative Checked where
  pure := passed
  seq f a := both f (a ())

def located (location : List LocationStep) : Except ProblemKind α → Checked α
  | .ok a => passed a
  | .error kind => failed [⟨location, kind⟩]

def without (found : List Problem) : Checked Unit :=
  if found.isEmpty then passed () else failed found

def each (check : α → Checked β) : List α → Checked (List β)
  | [] => passed []
  | a :: rest => (· :: ·) <$> check a <*> each check rest

end Checked

end TableRecords
