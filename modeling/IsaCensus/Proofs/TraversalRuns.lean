import IsaCensus.Proofs.TraversalSteps

/-! Runs of a traversal, one step after the other. A run is the sequence of its moments, and
what it leaves behind is the answers to its calls, in the order in which they were made. -/

namespace IsaCensus.Traversal

variable {κ φ : Type} [DecidableEq φ] (setting : Setting κ φ)

namespace State

theorem step_of_done {state : State κ φ} {outcome : Outcome} (stopped : state.phase = .done outcome) :
    state.step setting = state := by
  simp only [step, stopped]

theorem run_of_done {state : State κ φ} {outcome : Outcome} (stopped : state.phase = .done outcome) (time : Nat) :
    state.run setting time = state := by
  cases time with
  | zero => rfl
  | succ time => simp only [run, stopped]

theorem run_next (state : State κ φ) (time : Nat) :
    state.run setting (time + 1) = (state.step setting).run setting time := by
  cases phase : state.phase with
  | done outcome => rw [run_of_done setting phase, step_of_done setting phase, run_of_done setting phase]
  | choosing | following => simp only [run, phase]

theorem run_succ (state : State κ φ) (time : Nat) :
    state.run setting (time + 1) = (state.run setting time).step setting := by
  induction time generalizing state with
  | zero => rw [run_next]; rfl
  | succ time ih => rw [run_next, ih, ← run_next]

theorem run_add (state : State κ φ) (first second : Nat) :
    state.run setting (first + second) = (state.run setting first).run setting second := by
  induction second with
  | zero => rfl
  | succ second ih => rw [← Nat.add_assoc, run_succ, ih, ← run_succ]

theorem run_keeps {holds : State κ φ → Prop}
    (kept : ∀ before after, holds before → Move setting before after → holds after)
    {state : State κ φ} (first : holds state) (time : Nat) : holds (state.run setting time) := by
  induction time with
  | zero => exact first
  | succ time ih =>
    rw [run_succ]
    exact kept _ _ ih (step_move setting _)

theorem step_of_call {state : State κ φ} {call : Call κ} (called : state.call? setting = some call) :
    state.step setting = state.after setting call := by
  obtain ⟨ahead, clear, within, fresh⟩ := (call_eq_some setting).mp called
  have following := ((ahead_eq_some setting).mp ahead).1
  simp only [follow_eq setting following, ahead, clear, within, fresh, Bool.false_eq_true, if_false]

theorem step_of_start {state : State κ φ} {start : UInt64} {rest : List UInt64} {location : Location} {cursor : κ}
    (choosing : state.phase = .choosing) (clear : setting.control.cancelled state.clock = false)
    (top : state.stack = start :: rest) (fresh : normalize setting start ∉ state.visited)
    (found : setting.space.resolve (normalize setting start) = some location)
    (held : state.cursors[location.region]? = some cursor)
    (accepted : (setting.decoder.seek cursor location.offset).1 = true) :
    state.step setting = { state.popped with
      cursors := state.cursors.setIfInBounds location.region (setting.decoder.seek cursor location.offset).2
      phase := .following location.region (normalize setting start) } := by
  have still : state.popped.cursors[location.region]? = some cursor := held
  have unseen : normalize setting start ∉ state.popped.visited := fresh
  rw [choose_eq setting choosing, clear, top]
  simp only [Bool.false_eq_true, if_false, begin, unseen, found, still, accepted, if_true]
  rfl

/-- A step adds to the trace what the decoder answers, and nothing if it is not asked. -/
theorem step_trace (state : State κ φ) :
    (state.step setting).trace.toList =
      state.trace.toList ++ (state.call? setting).toList.map (Call.visit setting) := by
  cases called : state.call? setting with
  | some call => simp [step_of_call setting called, after_trace]
  | none =>
    have move := step_move setting state
    generalize state.step setting = next at move ⊢
    cases move with
    | decode asked => rw [called] at asked; cases asked
    | rest | cancel | complete | skip | miss | lack | start | leave | exhaust | join => exact (List.append_nil _).symm

/-- The calls of the next steps, in their order. -/
def calls : Nat → State κ φ → List (Call κ)
  | 0, _ => []
  | time + 1, state => (state.call? setting).toList ++ calls time (state.step setting)

theorem run_trace (state : State κ φ) (time : Nat) :
    (state.run setting time).trace.toList =
      state.trace.toList ++ (state.calls setting time).map (Call.visit setting) := by
  induction time generalizing state with
  | zero => simp [run, calls]
  | succ time ih => rw [run_next, ih, step_trace, calls, List.map_append, List.append_assoc]

theorem calls_add (state : State κ φ) (first second : Nat) : state.calls setting (first + second) =
    state.calls setting first ++ (state.run setting first).calls setting second := by
  induction first generalizing state with
  | zero => rw [Nat.zero_add]; rfl
  | succ first ih => rw [Nat.add_right_comm, calls, ih, calls, run_next, List.append_assoc]

theorem called_at {state : State κ φ} {call : Call κ} {time place : Nat}
    (listed : (state.calls setting time)[place]? = some call) :
    ∃ moment, (state.run setting moment).call? setting = some call ∧ (state.calls setting moment).length = place := by
  induction time generalizing state place with
  | zero => cases listed
  | succ time ih =>
    rw [calls] at listed
    cases called : state.call? setting with
    | none =>
      rw [called] at listed
      obtain ⟨moment, later, length⟩ := ih listed
      refine ⟨moment + 1, by rw [run_next]; exact later, ?_⟩
      rw [calls, called]
      exact length
    | some first =>
      rw [called] at listed
      cases place with
      | zero => exact ⟨0, called.trans listed, rfl⟩
      | succ place =>
        obtain ⟨moment, later, length⟩ := ih listed
        refine ⟨moment + 1, by rw [run_next]; exact later, ?_⟩
        rw [calls, called, ← length]
        rfl

theorem called_of_mem {state : State κ φ} {call : Call κ} {time : Nat} (member : call ∈ state.calls setting time) :
    ∃ moment, (state.run setting moment).call? setting = some call := by
  induction time generalizing state with
  | zero => cases member
  | succ time ih =>
    rcases List.mem_append.mp member with now | later
    · exact ⟨0, Option.mem_toList.mp now⟩
    · obtain ⟨moment, called⟩ := ih later
      exact ⟨moment + 1, by rw [run_next]; exact called⟩

end State

/-- The state of a traversal after some steps. -/
def moment (seeds : List UInt64) (time : Nat) : State κ φ := (State.initial setting seeds).run setting time

def calls (seeds : List UInt64) : List (Call κ) :=
  (State.initial setting seeds).calls setting (steps setting seeds)

theorem moment_succ (seeds : List UInt64) (time : Nat) :
    moment setting seeds (time + 1) = (moment setting seeds time).step setting :=
  State.run_succ setting _ _

theorem moment_of_done {seeds : List UInt64} {time later : Nat} {outcome : Outcome} (order : time ≤ later)
    (stopped : (moment setting seeds time).phase = .done outcome) :
    moment setting seeds later = moment setting seeds time := by
  obtain ⟨rest, rfl⟩ := Nat.exists_eq_add_of_le order
  exact (State.run_add setting _ _ _).trans (State.run_of_done setting stopped rest)

theorem running_before {seeds : List UInt64} {time later : Nat} (order : time ≤ later)
    (running : ∀ outcome, (moment setting seeds later).phase ≠ .done outcome) (outcome : Outcome) :
    (moment setting seeds time).phase ≠ .done outcome := by
  intro stopped
  apply running outcome
  rw [moment_of_done setting order stopped]
  exact stopped

/-- What the start has and every move keeps holds at every moment. -/
theorem moment_keeps {holds : State κ φ → Prop} {seeds : List UInt64} (first : holds (State.initial setting seeds))
    (kept : ∀ before after, holds before → State.Move setting before after → holds after) (time : Nat) :
    holds (moment setting seeds time) :=
  State.run_keeps setting kept first time

theorem trace_calls (seeds : List UInt64) :
    (traverse setting seeds).trace = (calls setting seeds).map (Call.visit setting) :=
  (State.run_trace setting _ _).trans (List.nil_append _)

theorem called_of_mem {seeds : List UInt64} {call : Call κ} (member : call ∈ calls setting seeds) :
    ∃ time, (moment setting seeds time).call? setting = some call :=
  State.called_of_mem setting member

end IsaCensus.Traversal
