import TableRecords.Store.Basic

/-! # Stores that play back replies

A store that answers each statement with the next of the replies prepared for it. It keeps the
statements it was sent, knows whether a transaction is open, and refuses everything once closed.
-/

namespace TableRecords

structure PreparedReply where
  /-- The transaction ends before anything else happens. -/
  endsTransaction : Bool := false
  outcome : Except Fault Reply := .ok {}

instance : Inhabited PreparedReply := ⟨{}⟩

structure Playback where
  replies : List PreparedReply := []
  sent : List Statement := []
  isOpen : Bool := true
  inTransaction : Bool := false

namespace Playback

def closedFault : Fault := .raised .programming "Cannot operate on a closed database."

def transactionAfter (sql : String) (inTransaction : Bool) : Bool :=
  if sql == "BEGIN" then true
  else if sql == "COMMIT" || sql == "ROLLBACK" then false
  else inTransaction

def send (p : Playback) (statement : Statement) : Except Fault Reply × Playback :=
  if p.isOpen then
    let reply := p.replies.headD default
    let open? := if reply.endsTransaction then false else p.inTransaction
    let inTransaction := match reply.outcome with
      | .ok _ => transactionAfter statement.sql open?
      | .error _ => open?
    (reply.outcome,
      { p with
        replies := p.replies.tail
        sent := p.sent ++ [statement]
        inTransaction := inTransaction })
  else (.error closedFault, p)

def close (p : Playback) : Playback := { p with isOpen := false, inTransaction := false }

def store : Store Playback := ⟨send, inTransaction, close⟩

end Playback

end TableRecords
