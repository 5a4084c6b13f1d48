import IsaCensus.Instruction

/-! What a traversal counts. A tally holds each feature once, in the order in which the
features were first seen, with the number of times it was seen. -/

namespace IsaCensus

abbrev Tally (φ : Type) := List (φ × Nat)

namespace Tally

variable {φ : Type} [DecidableEq φ]

def count : Tally φ → φ → Nat
  | [], _ => 0
  | (seen, n) :: rest, feature => if seen = feature then n else count rest feature

def add : Tally φ → φ → Tally φ
  | [], feature => [(feature, 1)]
  | (seen, n) :: rest, feature =>
    if seen = feature then (seen, n + 1) :: rest else (seen, n) :: add rest feature

theorem count_add (tally : Tally φ) (added feature : φ) :
    (tally.add added).count feature = tally.count feature + if added = feature then 1 else 0 := by
  induction tally with
  | nil => simp [add, count]
  | cons entry rest ih =>
    obtain ⟨seen, n⟩ := entry
    by_cases same : seen = added
    · subst same
      by_cases here : seen = feature <;> simp [add, count, here]
    · by_cases here : seen = feature
      · subst here
        have other : ¬ added = seen := fun equal => same equal.symm
        simp [add, count, same, other]
      · simp [add, count, same, here, ih]

end Tally

/-- The running counts that an observer is shown. -/
structure Snapshot where
  bytesDecoded : Nat
  instructions : Nat
  invalid : Nat
deriving DecidableEq, Repr

structure Totals (φ : Type) where
  bytesDecoded : Nat := 0
  instructions : Nat := 0
  invalid : Nat := 0
  features : Tally φ := []
deriving DecidableEq, Repr

namespace Totals

variable {φ : Type}

def snapshot (totals : Totals φ) : Snapshot :=
  ⟨totals.bytesDecoded, totals.instructions, totals.invalid⟩

/-- One more instruction has been decoded; nothing else is known of it yet. -/
def countOne (totals : Totals φ) : Totals φ :=
  { totals with instructions := totals.instructions + 1 }

/-- Takes in what a decoded instruction brings. Overlapping code is counted each time
it is decoded, but never beyond the number of bytes that were sampled. -/
def account [DecidableEq φ] (sampled : Nat) (totals : Totals φ) (instruction : Instruction φ) : Totals φ :=
  { totals with
    bytesDecoded := min (totals.bytesDecoded + instruction.length) sampled
    invalid := totals.invalid + if instruction.defect?.isSome then 1 else 0
    features := instruction.counted.foldl Tally.add totals.features }

end Totals

end IsaCensus
