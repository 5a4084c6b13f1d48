import IsaCensus.Proofs.Addresses
import IsaCensus.Proofs.DecoderLaws

/-! Where control can go. With a lawful decoder each address that resolves has one instruction,
so control flow is a relation between addresses that no traversal is needed to explain. -/

namespace IsaCensus

namespace Instruction

variable {φ : Type}

/-- An instruction that control can pass. -/
structure Sound (instruction : Instruction φ) : Prop where
  long : instruction.length ≠ 0
  valid : instruction.valid = true
  passable : instruction.flow ≠ .exception

theorem defect_eq_none {instruction : Instruction φ} : instruction.defect? = none ↔ instruction.Sound := by
  unfold defect?
  constructor
  · intro none
    split at none
    · cases none
    next long =>
      split at none
      · cases none
      next valid =>
        split at none
        · cases none
        next passable => exact ⟨long, by simpa using valid, passable⟩
  · intro sound
    simp [sound.long, sound.valid, sound.passable]

theorem branch_eq_some {instruction : Instruction φ} {target : UInt64} : instruction.branch? = some target ↔
    instruction.flow ∈ [.unconditionalBranch, .conditionalBranch, .call, .specialTransaction] ∧
      instruction.target = some target := by
  unfold branch?
  cases instruction.flow <;> simp [Flow.followsTarget]

theorem falls_iff {instruction : Instruction φ} : instruction.flow.fallsThrough = true ↔
    instruction.flow ∈ [.sequential, .conditionalBranch, .call, .specialTransaction, .trap] := by
  cases instruction.flow <;> simp [Flow.fallsThrough]

end Instruction

namespace Decoder.Lawful

variable {κ φ : Type} {decoder : Decoder κ φ} (lawful : decoder.Lawful) (space : Space)

/-- Control goes on from one address at another: at the target of a branch or call that lies
in a region, or behind the instruction, if that is still in the same region. -/
inductive Edge (address : UInt64) : UInt64 → Prop
  | branch {instruction : Instruction φ} {target : UInt64}
      (read : lawful.instructionAt? space address = some instruction) (sound : instruction.Sound)
      (follows : instruction.flow ∈ [.unconditionalBranch, .conditionalBranch, .call, .specialTransaction])
      (names : instruction.target = some target) (inside : space.contains target = true) :
      Edge address (space.domain.normalize target)
  | fall {instruction : Instruction φ} {here next : Location}
      (read : lawful.instructionAt? space address = some instruction) (sound : instruction.Sound)
      (falls : instruction.flow ∈ [.sequential, .conditionalBranch, .call, .specialTransaction, .trap])
      (from_here : space.resolve address = some here) (to_next : space.resolve instruction.next = some next)
      (same : next.region = here.region) : Edge address (space.domain.normalize instruction.next)

/-- The least set that holds the seeds that lie in a region and all that control goes on to. -/
inductive Reached (seeds : List UInt64) : UInt64 → Prop
  | seed {seed : UInt64} (member : seed ∈ seeds) (inside : space.contains seed = true) :
      Reached seeds (space.domain.normalize seed)
  | edge {address next : UInt64} (reached : Reached seeds address) (edge : Edge lawful space address next) :
      Reached seeds next

variable {lawful space}

theorem Edge.inside {address next : UInt64} (edge : lawful.Edge space address next) :
    space.domain.normalize next = next ∧ space.contains next = true := by
  cases edge with
  | branch _ _ _ _ inside => exact ⟨Domain.normalize_normalize _ _, (Space.contains_normalize _ _).trans inside⟩
  | fall _ _ _ _ to_next =>
    exact ⟨Domain.normalize_normalize _ _, (Space.contains_normalize _ _).trans (Space.contains_of_resolve to_next)⟩

end Decoder.Lawful

end IsaCensus
