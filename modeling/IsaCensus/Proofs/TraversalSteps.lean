import Std.Data.HashSet.Lemmas
import IsaCensus.Traversal

/-! What one step of a traversal can do. Every step is one of the moves below, and a state
allows only one move. Whatever holds of a run is derived from the moves, not from the step
function. -/

namespace IsaCensus.Traversal

variable {κ φ : Type}

/-- A place where the machine decodes: the cursor of a region, and the address that its path
has come to. -/
structure Call (κ : Type) where
  region : Nat
  address : UInt64
  cursor : κ

variable (setting : Setting κ φ)

namespace Call

def instruction (call : Call κ) : Instruction φ := (setting.decoder.decode call.cursor).1

def visit (call : Call κ) : Visit φ := ⟨call.address, call.region, call.instruction setting⟩

end Call

/-- The target that an instruction puts on the stack, if there is one that is new. -/
def discovered? (visited queued : Std.HashSet UInt64) (instruction : Instruction φ) : Option UInt64 :=
  if instruction.defect?.isSome then none
  else (instruction.branch?.map (normalize setting)).filter fun target =>
    setting.space.contains target && target ∉ visited && target ∉ queued

theorem discovered_eq_some {visited queued : Std.HashSet UInt64} {instruction : Instruction φ} {address : UInt64} :
    discovered? setting visited queued instruction = some address ↔
      instruction.defect? = none ∧ ∃ target, instruction.branch? = some target ∧
        normalize setting target = address ∧ setting.space.contains address = true ∧
        address ∉ visited ∧ address ∉ queued := by
  unfold discovered?
  cases instruction.defect? with
  | some defect => simp
  | none =>
    cases instruction.branch? with
    | none => simp
    | some target =>
      simp only [Option.isSome_none, Bool.false_eq_true, if_false, Option.map_some, Option.filter_eq_some_iff,
        Option.some_inj, Bool.and_eq_true, decide_eq_true_eq, true_and, exists_eq_left', and_assoc]

namespace State

/-- The place that a path stands before, while its cursor has bytes left. -/
def ahead? (state : State κ φ) : Option (Call κ) :=
  match state.phase with
  | .following region address =>
    (state.cursors[region]?.filter setting.decoder.hasRemaining).map fun cursor => ⟨region, address, cursor⟩
  | _ => none

/-- The machine is about to look whether it was cancelled. -/
def Asks (state : State κ φ) : Prop := state.phase = .choosing ∨ (state.ahead? setting).isSome

/-- The place where the next step decodes, if it does. -/
def call? (state : State κ φ) : Option (Call κ) :=
  (state.ahead? setting).filter fun call =>
    !setting.control.cancelled state.clock && !exhausted setting state && call.address ∉ state.visited

/-- The addresses that count as decoded behind an instruction. -/
def seen (state : State κ φ) (address : UInt64) (instruction : Instruction φ) : Std.HashSet UInt64 :=
  (state.visited.insert address).insert (normalize setting instruction.address)

def after [DecidableEq φ] (state : State κ φ) (call : Call κ) : State κ φ :=
  ({ state.polled with
      cursors := state.cursors.setIfInBounds call.region (setting.decoder.decode call.cursor).2 }).absorb
    setting call.region call.address (call.instruction setting)

def popped (state : State κ φ) : State κ φ :=
  { state.polled with stack := state.stack.tail, pops := state.pops + 1 }

theorem ahead_eq_some {state : State κ φ} {call : Call κ} :
    state.ahead? setting = some call ↔ state.phase = .following call.region call.address ∧
      state.cursors[call.region]? = some call.cursor ∧ setting.decoder.hasRemaining call.cursor = true := by
  obtain ⟨region, address, cursor⟩ := call
  unfold ahead?
  cases state.phase with
  | choosing | done => simp
  | following held place =>
    simp only [Option.map_eq_some_iff, Option.filter_eq_some_iff, Call.mk.injEq, Phase.following.injEq]
    constructor
    · rintro ⟨_, ⟨found, remaining⟩, rfl, rfl, rfl⟩
      exact ⟨⟨rfl, rfl⟩, found, remaining⟩
    · rintro ⟨⟨rfl, rfl⟩, found, remaining⟩
      exact ⟨cursor, ⟨found, remaining⟩, rfl, rfl, rfl⟩

theorem call_eq_some {state : State κ φ} {call : Call κ} :
    state.call? setting = some call ↔ state.ahead? setting = some call ∧
      setting.control.cancelled state.clock = false ∧ exhausted setting state = false ∧
      call.address ∉ state.visited := by
  simp only [call?, Option.filter_eq_some_iff, Bool.and_eq_true, Bool.not_eq_true', decide_eq_true_eq, and_assoc]

theorem call_following {state : State κ φ} {call : Call κ} (called : state.call? setting = some call) :
    state.phase = .following call.region call.address :=
  ((ahead_eq_some setting).mp ((call_eq_some setting).mp called).1).1

theorem asks_of_ahead {state : State κ φ} {call : Call κ} (ahead : state.ahead? setting = some call) :
    state.Asks setting :=
  .inr (Option.isSome_iff_exists.mpr ⟨call, ahead⟩)

theorem observe_progress (state : State κ φ) : (state.observe setting).progress =
    if setting.control.observed = true ∧ 0 < setting.reportEvery ∧
        state.totals.instructions % setting.reportEvery = 0 then
      state.progress.push state.totals.snapshot
    else state.progress := by
  unfold observe
  split <;> rfl

variable [DecidableEq φ]

/-- Decoding changes everything at once: this is the state behind an instruction, field by field. -/
theorem absorb_eq (state : State κ φ) (region : Nat) (address : UInt64) (instruction : Instruction φ) :
    state.absorb setting region address instruction =
      { state with
        phase := if continues setting region instruction then
          .following region (normalize setting instruction.next) else .choosing
        stack := (discovered? setting (state.seen setting address instruction) state.queued instruction).toList ++
          state.stack
        queued := (discovered? setting (state.seen setting address instruction) state.queued instruction).elim
          state.queued state.queued.insert
        visited := state.seen setting address instruction
        totals := state.totals.countOne.account setting.sampled instruction
        trace := state.trace.push ⟨address, region, instruction⟩
        progress := (state.countOne.observe setting).progress
        log := match instruction.defect? with
          | some defect => state.log.push (defect.issue instruction.address)
          | none => state.log
        issues := match instruction.defect? with
          | some defect => state.issues.push (defect.issue instruction.address)
          | none => state.issues } := by
  have shown : state.countOne.observe setting =
      { state with totals := state.totals.countOne, progress := (state.countOne.observe setting).progress } := by
    unfold observe
    split <;> rfl
  unfold absorb
  rw [shown]
  simp only [proceed, State.visit, State.record, State.account]
  cases defect : instruction.defect? with
  | some defect => simp [discovered?, defect, State.report, State.enter, seen]
  | none =>
    cases branch : instruction.branch? with
    | none => simp [discovered?, defect, branch, State.enter, seen]
    | some target =>
      by_cases new : setting.space.contains (normalize setting target) = true ∧
          normalize setting target ∉ state.seen setting address instruction ∧
          normalize setting target ∉ state.queued
      -- The instruction counts as visited by the time its target is looked at.
      · have hit : discovered? setting (state.seen setting address instruction) state.queued instruction =
            some (normalize setting target) :=
          (discovered_eq_some setting).mpr ⟨defect, target, branch, rfl, new⟩
        rw [hit]
        unfold seen at new ⊢
        exact if_pos new
      · have miss : discovered? setting (state.seen setting address instruction) state.queued instruction = none := by
          apply Option.eq_none_iff_forall_not_mem.mpr
          intro address member
          obtain ⟨_, other, same, rfl, unseen⟩ := (discovered_eq_some setting).mp member
          rw [branch, Option.some_inj] at same
          exact new (same ▸ unseen)
        rw [miss]
        unfold seen at new ⊢
        exact if_neg new

section After
variable (state : State κ φ) (call : Call κ)

theorem after_cursors : (state.after setting call).cursors =
    state.cursors.setIfInBounds call.region (setting.decoder.decode call.cursor).2 := by
  simp only [after, absorb_eq, polled]

theorem after_phase : (state.after setting call).phase =
    if continues setting call.region (call.instruction setting) then
      .following call.region (normalize setting (call.instruction setting).next)
    else .choosing := by
  simp only [after, absorb_eq]

theorem after_stack : (state.after setting call).stack =
    (discovered? setting (state.after setting call).visited state.queued (call.instruction setting)).toList ++
      state.stack := by
  simp only [after, absorb_eq, polled, seen]

theorem after_queued : (state.after setting call).queued =
    (discovered? setting (state.after setting call).visited state.queued (call.instruction setting)).elim
      state.queued state.queued.insert := by
  simp only [after, absorb_eq, polled, seen]

theorem mem_after_stack {address : UInt64} : address ∈ (state.after setting call).stack ↔
    discovered? setting (state.after setting call).visited state.queued (call.instruction setting) = some address ∨
      address ∈ state.stack := by
  rw [after_stack, List.mem_append, Option.mem_toList]

theorem mem_after_queued {address : UInt64} : address ∈ (state.after setting call).queued ↔
    discovered? setting (state.after setting call).visited state.queued (call.instruction setting) = some address ∨
      address ∈ state.queued := by
  rw [after_queued]
  cases discovered? setting (state.after setting call).visited state.queued (call.instruction setting) with
  | none => simp
  | some found => simp

theorem mem_after_visited {address : UInt64} : address ∈ (state.after setting call).visited ↔
    address = call.address ∨ address = normalize setting (call.instruction setting).address ∨
      address ∈ state.visited := by
  simp only [after, absorb_eq, polled, seen, Std.HashSet.mem_insert, beq_iff_eq]
  grind

theorem after_totals : (state.after setting call).totals =
    state.totals.countOne.account setting.sampled (call.instruction setting) := by
  simp only [after, absorb_eq, polled]

theorem after_trace : (state.after setting call).trace = state.trace.push (call.visit setting) := by
  simp only [after, absorb_eq, polled, Call.visit]

theorem after_progress : (state.after setting call).progress =
    if setting.control.observed = true ∧ 0 < setting.reportEvery ∧
        (state.totals.instructions + 1) % setting.reportEvery = 0 then
      state.progress.push state.totals.countOne.snapshot
    else state.progress := by
  simp only [after, absorb_eq, observe_progress]
  rfl

theorem after_pops : (state.after setting call).pops = state.pops := by
  simp only [after, absorb_eq, polled]

theorem after_log : (state.after setting call).log =
    match (call.instruction setting).defect? with
    | some defect => state.log.push (defect.issue (call.instruction setting).address)
    | none => state.log := by
  simp only [after, absorb_eq, polled]

theorem after_issues : (state.after setting call).issues =
    match (call.instruction setting).defect? with
    | some defect => state.issues.push (defect.issue (call.instruction setting).address)
    | none => state.issues := by
  simp only [after, absorb_eq, polled]

end After

/-- The moves of a traversal. A guard that a move needs is one of its arguments. -/
inductive Move (state : State κ φ) : State κ φ → Prop
  | rest {outcome} (stopped : state.phase = .done outcome) : Move state state
  | cancel (asks : state.Asks setting) (token : setting.control.cancelled state.clock = true) :
      Move state (state.polled.enter (.done .cancelled))
  | complete (choosing : state.phase = .choosing) (clear : setting.control.cancelled state.clock = false)
      (empty : state.stack = []) : Move state (state.polled.enter (.done .completed))
  | skip {start rest} (choosing : state.phase = .choosing) (clear : setting.control.cancelled state.clock = false)
      (top : state.stack = start :: rest) (known : normalize setting start ∈ state.visited) :
      Move state state.popped
  | miss {start rest} (choosing : state.phase = .choosing) (clear : setting.control.cancelled state.clock = false)
      (top : state.stack = start :: rest) (fresh : normalize setting start ∉ state.visited)
      (outside : setting.space.resolve (normalize setting start) = none) :
      Move state (state.popped.report ⟨.unresolvedAddress,
        Text.hex (normalize setting start).toNat ++ " is outside every executable region"⟩)
  | lack {start rest location} (choosing : state.phase = .choosing)
      (clear : setting.control.cancelled state.clock = false)
      (top : state.stack = start :: rest) (fresh : normalize setting start ∉ state.visited)
      (found : setting.space.resolve (normalize setting start) = some location)
      (absent : state.cursors[location.region]? = none) : Move state state.popped
  | start {start rest location cursor} (choosing : state.phase = .choosing)
      (clear : setting.control.cancelled state.clock = false)
      (top : state.stack = start :: rest) (fresh : normalize setting start ∉ state.visited)
      (found : setting.space.resolve (normalize setting start) = some location)
      (held : state.cursors[location.region]? = some cursor) :
      Move state { state.popped with
        cursors := state.cursors.setIfInBounds location.region (setting.decoder.seek cursor location.offset).2
        phase := if (setting.decoder.seek cursor location.offset).1 then
          .following location.region (normalize setting start) else .choosing }
  | leave {region address} (following : state.phase = .following region address)
      (nothing : state.ahead? setting = none) : Move state (state.enter .choosing)
  | exhaust {call} (ahead : state.ahead? setting = some call)
      (clear : setting.control.cancelled state.clock = false) (spent : exhausted setting state = true) :
      Move state ((state.polled.report (budgetIssue setting)).enter (.done .budgetExhausted))
  | join {call} (ahead : state.ahead? setting = some call)
      (clear : setting.control.cancelled state.clock = false) (within : exhausted setting state = false)
      (known : call.address ∈ state.visited) : Move state (state.polled.enter .choosing)
  | decode {call} (called : state.call? setting = some call) : Move state (state.after setting call)

theorem choose_eq {state : State κ φ} (choosing : state.phase = .choosing) :
    state.step setting =
      if setting.control.cancelled state.clock then state.polled.enter (.done .cancelled)
      else match state.stack with
        | [] => state.polled.enter (.done .completed)
        | start :: _ => state.popped.begin setting start := by
  simp only [step, choosing, choose]
  cases top : state.stack with
  | nil => rfl
  | cons start rest => simp only [popped, top, List.tail_cons]

theorem follow_eq {state : State κ φ} {region : Nat} {address : UInt64}
    (following : state.phase = .following region address) :
    state.step setting = match state.ahead? setting with
      | none => state.enter .choosing
      | some call =>
        if setting.control.cancelled state.clock then state.polled.enter (.done .cancelled)
        else if exhausted setting state then
          (state.polled.report (budgetIssue setting)).enter (.done .budgetExhausted)
        else if call.address ∈ state.visited then state.polled.enter .choosing
        else state.after setting call := by
  simp only [step, following, follow, ahead?]
  cases state.cursors[region]? with
  | none => rfl
  | some cursor =>
    cases remaining : setting.decoder.hasRemaining cursor with
    | false => simp [remaining, Option.filter]
    | true => simp [remaining, Option.filter, after, Call.instruction]

theorem step_move (state : State κ φ) : Move setting state (state.step setting) := by
  cases phase : state.phase with
  | done outcome =>
    have same : state.step setting = state := by simp only [step, phase]
    rw [same]
    exact .rest phase
  | choosing =>
    rw [choose_eq setting phase]
    split
    next token => exact .cancel (.inl phase) token
    next clear =>
      rw [Bool.not_eq_true] at clear
      split
      next empty => exact .complete phase clear empty
      next start rest top =>
        simp only [begin]
        split
        next known => exact .skip phase clear top known
        next fresh =>
          split
          next outside => exact .miss phase clear top fresh outside
          next location found =>
            split
            next absent => exact .lack phase clear top fresh found absent
            next cursor held => exact .start phase clear top fresh found held
  | following region address =>
    rw [follow_eq setting phase]
    cases ahead : state.ahead? setting with
    | none => exact .leave phase ahead
    | some call =>
      simp only
      split
      next token => exact .cancel (asks_of_ahead setting ahead) token
      next clear =>
        rw [Bool.not_eq_true] at clear
        split
        next spent => exact .exhaust ahead clear spent
        next within =>
          rw [Bool.not_eq_true] at within
          split
          next known => exact .join ahead clear within known
          next fresh => exact .decode ((call_eq_some setting).mpr ⟨ahead, clear, within, fresh⟩)

end State

end IsaCensus.Traversal
