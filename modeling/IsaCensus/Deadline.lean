import IsaCensus.Fault

/-! Deadlines for operations that may take too long. -/

namespace IsaCensus

structure Deadline where
  seconds : Nat
  /-- The name that the operation has in messages. -/
  operation : String
  logWarnings : Bool := true
deriving DecidableEq, Repr

/-- An operation as its deadline finds it. -/
inductive Attempt (α : Type)
  | finished (value : α)
  | failed (fault : Fault)
  | pending
deriving DecidableEq, Repr

/-- An operation that has come to its end. -/
def Attempt.ofResult {α : Type} : Except Fault α → Attempt α
  | .ok value => .finished value
  | .error fault => .failed fault

namespace Deadline

def fast (operation : String) : Deadline := { seconds := 10, operation }

def standard (operation : String) : Deadline := { seconds := 300, operation }

/-- What comes of an operation. One that is finished has met every deadline, even one of no time. -/
def await {α : Type} (deadline : Deadline) : Attempt α → Except Fault α
  | .finished value => .ok value
  | .failed fault => .error fault
  | .pending => .error (.timeout deadline.seconds)

end Deadline

end IsaCensus
