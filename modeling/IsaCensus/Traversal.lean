import Std.Data.HashSet
import IsaCensus.Address
import IsaCensus.Issue
import IsaCensus.Traversal.Totals
import IsaCensus.Traversal.Control

/-! Decoding along control flow. Paths start at the seeds and at the branch targets met on
the way. A path is decoded from one instruction to the next until control leaves it, it
would leave its region, or it runs into code that was decoded before. One step of the
machine either chooses a path or decodes one instruction of the path that it follows. -/

namespace IsaCensus

/-- One decoded instruction, with the address and region at which its path stood. -/
structure Visit (φ : Type) where
  address : UInt64
  region : Nat
  instruction : Instruction φ
deriving DecidableEq, Repr

/-- What a traversal is given besides its seeds. -/
structure Setting (κ φ : Type) where
  decoder : Decoder κ φ
  space : Space
  /-- The number of bytes that decoding can account for. -/
  sampled : Nat
  budget : Option Nat := none
  /-- The number of instructions between two snapshots; none are taken when it is zero. -/
  reportEvery : Nat := 0
  control : Control := {}
  /-- The log as it is handed over, with what was told before. -/
  log : IssueLog := { cap := 0 }

namespace Traversal

inductive Phase
  | choosing
  | following (region : Nat) (address : UInt64)
  | done (outcome : Outcome)
deriving DecidableEq, Repr

structure State (κ φ : Type) where
  cursors : Array κ
  phase : Phase := .choosing
  stack : List UInt64
  /-- Every address that was ever put on the stack. -/
  queued : Std.HashSet UInt64
  visited : Std.HashSet UInt64 := {}
  totals : Totals φ := {}
  trace : Array (Visit φ) := #[]
  progress : Array Snapshot := #[]
  log : IssueLog
  /-- Every issue that was ever told, also those that the log has dropped. -/
  issues : Array Issue := #[]
  pops : Nat := 0
  polls : Nat := 0

variable {κ φ : Type} [DecidableEq φ] (setting : Setting κ φ)

def normalize (address : UInt64) : UInt64 := setting.space.domain.normalize address

/-- The first seed is on top. -/
def State.initial (seeds : List UInt64) : State κ φ where
  cursors := (setting.space.regions.map fun region => setting.decoder.cursor region.bytes region.base).toArray
  stack := seeds
  queued := Std.HashSet.ofList seeds
  log := setting.log

namespace State

def clock (state : State κ φ) : Clock := ⟨state.polls, state.totals.instructions, state.progress.size⟩

def report (state : State κ φ) (issue : Issue) : State κ φ :=
  { state with log := state.log.push issue, issues := state.issues.push issue }

def polled (state : State κ φ) : State κ φ := { state with polls := state.polls + 1 }

def enter (state : State κ φ) (phase : Phase) : State κ φ := { state with phase }

/-- Puts a branch target on the stack, once, if there is code at it that was not decoded yet. -/
def enqueue (state : State κ φ) (target : UInt64) : State κ φ :=
  let target := normalize setting target
  if setting.space.contains target ∧ target ∉ state.visited ∧ target ∉ state.queued then
    { state with stack := target :: state.stack, queued := state.queued.insert target }
  else state

def begin (state : State κ φ) (start : UInt64) : State κ φ :=
  let address := normalize setting start
  if address ∈ state.visited then state
  else match setting.space.resolve address with
    | none => state.report
        ⟨.unresolvedAddress, Text.hex address.toNat ++ " is outside every executable region"⟩
    | some location =>
      match state.cursors[location.region]? with
      | none => state
      | some cursor =>
        let (accepted, cursor) := setting.decoder.seek cursor location.offset
        { state with
          cursors := state.cursors.setIfInBounds location.region cursor
          phase := if accepted then .following location.region address else .choosing }

def choose (state : State κ φ) : State κ φ :=
  if setting.control.cancelled state.clock then state.polled.enter (.done .cancelled)
  else match state.stack with
    | [] => state.polled.enter (.done .completed)
    | start :: rest => begin setting { state.polled with stack := rest, pops := state.pops + 1 } start

def continues (region : Nat) (instruction : Instruction φ) : Bool :=
  instruction.defect?.isNone && instruction.flow.fallsThrough &&
    (setting.space.resolve instruction.next).any (·.region == region)

def countOne (state : State κ φ) : State κ φ := { state with totals := state.totals.countOne }

def observe (state : State κ φ) : State κ φ :=
  if setting.control.observed ∧ 0 < setting.reportEvery ∧
      state.totals.instructions % setting.reportEvery = 0 then
    { state with progress := state.progress.push state.totals.snapshot }
  else state

def visit (state : State κ φ) (address : UInt64) : State κ φ :=
  { state with visited := state.visited.insert address }

def record (state : State κ φ) (visit : Visit φ) : State κ φ :=
  { state with trace := state.trace.push visit }

def account (state : State κ φ) (instruction : Instruction φ) : State κ φ :=
  { state with totals := state.totals.account setting.sampled instruction }

def proceed (state : State κ φ) (region : Nat) (instruction : Instruction φ) : State κ φ :=
  let state := state.enter <|
    if continues setting region instruction then .following region (normalize setting instruction.next)
    else .choosing
  match instruction.defect?, instruction.branch? with
  | some defect, _ => state.report (defect.issue instruction.address)
  | none, some target => state.enqueue setting target
  | none, none => state

/-- Everything that follows from one decoded instruction. The snapshot is taken when it was
counted, before it is accounted for. -/
def absorb (state : State κ φ) (region : Nat) (address : UInt64) (instruction : Instruction φ) : State κ φ :=
  ((((((state.countOne.observe setting).visit address).visit
      (normalize setting instruction.address)).record ⟨address, region, instruction⟩).account setting
    instruction).proceed setting region instruction)

def exhausted (state : State κ φ) : Bool :=
  match setting.budget with
  | some limit => limit ≤ state.totals.instructions
  | none => false

def budgetIssue : Issue :=
  ⟨.budget, "instruction budget of " ++ toString (setting.budget.getD 0) ++ " reached"⟩

def follow (state : State κ φ) (region : Nat) (address : UInt64) : State κ φ :=
  match state.cursors[region]? with
  | none => state.enter .choosing
  | some cursor =>
    if !setting.decoder.hasRemaining cursor then state.enter .choosing
    else if setting.control.cancelled state.clock then state.polled.enter (.done .cancelled)
    else if exhausted setting state then
      (state.polled.report (budgetIssue setting)).enter (.done .budgetExhausted)
    else if address ∈ state.visited then state.polled.enter .choosing
    else
      let (instruction, cursor) := setting.decoder.decode cursor
      let state := { state.polled with cursors := state.cursors.setIfInBounds region cursor }
      state.absorb setting region address instruction

def step (state : State κ φ) : State κ φ :=
  match state.phase with
  | .choosing => state.choose setting
  | .following region address => state.follow setting region address
  | .done _ => state

def run : Nat → State κ φ → State κ φ
  | 0, state => state
  | steps + 1, state =>
    match state.phase with
    | .done _ => state
    | _ => run steps (state.step setting)

end State

/-- Enough steps for every traversal. At most one instruction is decoded and at most one
target queued at each address that resolves; a path takes one step to choose and one to end. -/
def steps (seeds : List UInt64) : Nat :=
  2 * (seeds.length + setting.space.extent) + setting.space.extent + 2

def finish (seeds : List UInt64) : State κ φ :=
  (State.initial setting seeds).run setting (steps setting seeds)

end Traversal

/-- The result of decoding everything that can be reached from the seeds. -/
structure Traversal (φ : Type) where
  totals : Totals φ
  outcome : Outcome
  trace : List (Visit φ)
  progress : List Snapshot
  log : IssueLog
  issues : List Issue
  pops : Nat
deriving DecidableEq, Repr

def Traversal.Phase.outcome : Traversal.Phase → Outcome
  | .done outcome => outcome
  | _ => .completed

def traverse {κ φ : Type} [DecidableEq φ] (setting : Setting κ φ) (seeds : List UInt64) : Traversal φ :=
  let final := Traversal.finish setting seeds
  { totals := final.totals
    outcome := final.phase.outcome
    trace := final.trace.toList
    progress := final.progress.toList
    log := final.log
    issues := final.issues.toList
    pops := final.pops }

end IsaCensus
