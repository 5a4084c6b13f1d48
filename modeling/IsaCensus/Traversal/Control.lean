/-! How a run is limited and interrupted from outside. -/

namespace IsaCensus

/-- How far a run has come when it asks whether it was cancelled. -/
structure Clock where
  polls : Nat
  decoded : Nat
  reports : Nat
deriving DecidableEq, Repr

structure Control where
  cancelled : Clock → Bool := fun _ => false
  observed : Bool := false

namespace Control

def cancelledAtOnce (control : Control) : Control := { control with cancelled := fun _ => true }

/-- Cancelled while the `n`-th instruction is decoded, the first being number one. -/
def cancelledAtDecode (control : Control) (n : Nat) : Control :=
  { control with cancelled := fun clock => control.cancelled clock || (0 < n && n ≤ clock.decoded) }

/-- Cancelled by the observer while it is shown the `n`-th snapshot, the first being number one. -/
def cancelledAtReport (control : Control) (n : Nat) : Control :=
  { control with cancelled := fun clock => control.cancelled clock || (0 < n && n ≤ clock.reports) }

end Control

inductive Outcome
  | completed
  | cancelled
  | budgetExhausted
deriving DecidableEq, Repr

namespace Outcome

def name : Outcome → String
  | .completed => "Completed"
  | .cancelled => "Cancelled"
  | .budgetExhausted => "BudgetExhausted"

def ofName? : String → Option Outcome
  | "Completed" => some .completed
  | "Cancelled" => some .cancelled
  | "BudgetExhausted" => some .budgetExhausted
  | _ => none

end Outcome

end IsaCensus
