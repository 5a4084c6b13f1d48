import IsaCensus.Issue
import IsaCensus.Bytes
import IsaCensus.Text.Hex

/-! Decoded instructions and the decoders that produce them. A decoder is asked for one
cursor per region and is free to keep any state in it. -/

namespace IsaCensus

/-- How an instruction hands on control. -/
inductive Flow
  | sequential
  | unconditionalBranch
  | conditionalBranch
  | call
  | indirectBranch
  | ret
  | interrupt
  | exception
  | specialTransaction
  | trap
deriving DecidableEq, Repr

namespace Flow

def name : Flow → String
  | .sequential => "Sequential"
  | .unconditionalBranch => "UnconditionalBranch"
  | .conditionalBranch => "ConditionalBranch"
  | .call => "Call"
  | .indirectBranch => "IndirectBranch"
  | .ret => "Return"
  | .interrupt => "Interrupt"
  | .exception => "Exception"
  | .specialTransaction => "SpecialTransaction"
  | .trap => "Trap"

/-- The next instruction in memory may run after this one. -/
def fallsThrough : Flow → Bool
  | .sequential | .conditionalBranch | .call | .specialTransaction | .trap => true
  | _ => false

/-- A target given with this flow is a place where control may go on. -/
def followsTarget : Flow → Bool
  | .unconditionalBranch | .conditionalBranch | .call | .specialTransaction => true
  | _ => false

end Flow

structure Instruction (φ : Type) where
  address : UInt64
  length : Nat
  next : UInt64
  flow : Flow
  target : Option UInt64 := none
  valid : Bool := true
  features : List φ
deriving DecidableEq, Repr

/-- Why a decoded instruction ends its path as an error. -/
inductive Defect
  | noProgress
  | undecodable
  | faulting
deriving DecidableEq, Repr

def Defect.issue (address : UInt64) : Defect → Issue
  | .noProgress => ⟨.zeroLengthInstruction, Text.hex address.toNat ++ ": decoder made no progress"⟩
  | .undecodable => ⟨.invalidInstruction, Text.hex address.toNat ++ ": invalid instruction"⟩
  | .faulting => ⟨.exception, Text.hex address.toNat ++ ": faulting instruction"⟩

namespace Instruction

variable {φ : Type}

/-- The first defect in this order counts: no length, not an instruction, a fault by design. -/
def defect? (instruction : Instruction φ) : Option Defect :=
  if instruction.length = 0 then some .noProgress
  else if !instruction.valid then some .undecodable
  else if instruction.flow = .exception then some .faulting
  else none

/-- The features that a census counts: none for a defect, and none for an intended trap. -/
def counted (instruction : Instruction φ) : List φ :=
  if instruction.defect?.isSome ∨ instruction.flow = .trap then [] else instruction.features

/-- Where control may go other than to the next instruction. -/
def branch? (instruction : Instruction φ) : Option UInt64 :=
  if instruction.flow.followsTarget then instruction.target else none

end Instruction

/-- A decoder of instructions with features in `φ`, whose cursors are values of `κ`. -/
structure Decoder (κ φ : Type) where
  /-- A cursor over the bytes, the first of which is loaded at the address. -/
  cursor : Bytes → UInt64 → κ
  /-- Moves to an offset, or refuses. -/
  seek : κ → Nat → Bool × κ
  hasRemaining : κ → Bool
  /-- The instruction at the position, and the cursor behind it. -/
  decode : κ → Instruction φ × κ

end IsaCensus
