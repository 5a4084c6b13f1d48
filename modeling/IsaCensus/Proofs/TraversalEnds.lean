import IsaCensus.Proofs.TraversalBounds

/-! How a traversal ends. There are three reasons to stop, and the machine meets one of them in
a state that already has all that the traversal will return. What it has counted in a state
follows from what it has decoded. -/

namespace IsaCensus

variable {κ φ : Type}

/-- What a traversal counts when it has decoded these instructions. -/
def Totals.over [DecidableEq φ] (sampled : Nat) (visits : List (Visit φ)) : Totals φ :=
  visits.foldl (fun totals visit => totals.countOne.account sampled visit.instruction) {}

namespace Traversal

variable (setting : Setting κ φ)

namespace State

/-- Why a traversal stops. -/
inductive Halt (state : State κ φ) : Outcome → Prop
  | cancelled (asks : state.Asks setting) (token : setting.control.cancelled state.clock = true) :
      Halt state .cancelled
  | completed (choosing : state.phase = .choosing) (clear : setting.control.cancelled state.clock = false)
      (empty : state.stack = []) : Halt state .completed
  | exhausted {call} (ahead : state.ahead? setting = some call)
      (clear : setting.control.cancelled state.clock = false) (spent : exhausted setting state = true) :
      Halt state .budgetExhausted

theorem exhausted_eq_true {state : State κ φ} : exhausted setting state = true ↔
    ∃ limit, setting.budget = some limit ∧ limit ≤ state.totals.instructions := by
  unfold exhausted
  cases setting.budget with
  | none => simp
  | some limit => simp

/-- Without a budget and a token the work has to be done. -/
theorem Halt.drained {state : State κ φ} {outcome : Outcome} (halt : state.Halt setting outcome)
    (unlimited : setting.budget = none) (undisturbed : ∀ clock, setting.control.cancelled clock = false) :
    state.phase = .choosing ∧ state.stack = [] := by
  cases halt with
  | cancelled _ token => cases token.symm.trans (undisturbed _)
  | completed choosing _ empty => exact ⟨choosing, empty⟩
  | exhausted _ _ spent =>
    obtain ⟨limit, limited, _⟩ := (exhausted_eq_true setting).mp spent
    cases unlimited.symm.trans limited

variable [DecidableEq φ]

theorem Move.halt {before after : State κ φ} (move : Move setting before after)
    (running : ∀ outcome, before.phase ≠ .done outcome) {outcome : Outcome} (stopped : after.phase = .done outcome) :
    before.Halt setting outcome ∧ after.trace = before.trace ∧ after.totals = before.totals := by
  cases move with
  | rest stopped => exact absurd stopped (running _)
  | cancel asks token =>
    cases stopped
    exact ⟨.cancelled asks token, rfl, rfl⟩
  | complete choosing clear empty =>
    cases stopped
    exact ⟨.completed choosing clear empty, rfl, rfl⟩
  | exhaust ahead clear spent =>
    cases stopped
    exact ⟨.exhausted ahead clear spent, rfl, rfl⟩
  | leave | join => cases stopped
  | skip choosing | miss choosing | lack choosing => cases choosing.symm.trans stopped
  | start =>
    simp only at stopped
    split at stopped <;> cases stopped
  | decode =>
    rw [after_phase] at stopped
    split at stopped <;> cases stopped

theorem step_of_token {state : State κ φ} (asks : state.Asks setting)
    (token : setting.control.cancelled state.clock = true) :
    state.step setting = state.polled.enter (.done .cancelled) := by
  rcases asks with choosing | ready
  · rw [choose_eq setting choosing, if_pos token]
  · obtain ⟨call, ahead⟩ := Option.isSome_iff_exists.mp ready
    rw [follow_eq setting ((ahead_eq_some setting).mp ahead).1, ahead]
    exact if_pos token

theorem step_of_spent {state : State κ φ} {call : Call κ} (ahead : state.ahead? setting = some call)
    (clear : setting.control.cancelled state.clock = false) (spent : exhausted setting state = true) :
    state.step setting = (state.polled.report (budgetIssue setting)).enter (.done .budgetExhausted) := by
  rw [follow_eq setting ((ahead_eq_some setting).mp ahead).1, ahead]
  simp only [clear, spent, Bool.false_eq_true, if_true, if_false]

/-- The step in which a traversal stops. -/
theorem Halt.step {state : State κ φ} {outcome : Outcome} (halt : state.Halt setting outcome) :
    state.step setting =
      (if outcome = .budgetExhausted then state.polled.report (budgetIssue setting) else state.polled).enter
        (.done outcome) := by
  cases halt with
  | cancelled asks token => exact step_of_token setting asks token
  | completed choosing clear empty =>
    rw [choose_eq setting choosing, clear, empty]
    rfl
  | exhausted ahead clear spent => exact step_of_spent setting ahead clear spent

end State

variable [DecidableEq φ] (seeds : List UInt64)

theorem moment_totals (time : Nat) :
    (moment setting seeds time).totals = .over setting.sampled (moment setting seeds time).trace.toList := by
  refine @moment_keeps _ _ _ setting
    (fun state => state.totals = .over setting.sampled state.trace.toList) seeds ?_ ?_ time
  · rfl
  · intro before after counted move
    cases move with
    | rest | cancel | complete | skip | miss | lack | start | leave | exhaust | join => exact counted
    | decode =>
      rw [State.after_totals, State.after_trace, Array.toList_push, Totals.over, List.foldl_append, counted]
      rfl

theorem moment_within {limit : Nat} (limited : setting.budget = some limit) (time : Nat) :
    (moment setting seeds time).totals.instructions ≤ limit := by
  refine @moment_keeps _ _ _ setting (fun state => state.totals.instructions ≤ limit) seeds ?_ ?_ time
  · exact Nat.zero_le limit
  · intro before after within move
    cases move with
    | rest | cancel | complete | skip | miss | lack | start | leave | exhaust | join => exact within
    | decode called =>
      have left := ((State.call_eq_some setting).mp called).2.2.1
      simp only [State.exhausted, limited, decide_eq_false_iff_not, Nat.not_le] at left
      rw [State.after_totals]
      exact left

theorem moment_trace_prefix (time : Nat) :
    (moment setting seeds time).trace.toList <+: (traverse setting seeds).trace := by
  rcases Nat.le_total time (steps setting seeds) with early | late
  · obtain ⟨rest, whole⟩ := Nat.exists_eq_add_of_le early
    have trace : (traverse setting seeds).trace = ((moment setting seeds time).run setting rest).trace.toList := by
      rw [traverse, finish, whole, State.run_add]
      rfl
    rw [trace, State.run_trace]
    exact List.prefix_append _ _
  · obtain ⟨outcome, stopped⟩ := finish_done setting seeds
    rw [moment_of_done setting late stopped]
    exact List.prefix_rfl

theorem moment_reports (observed : setting.control.observed = true) (spaced : 0 < setting.reportEvery)
    (seeds : List UInt64) (time : Nat) :
    (moment setting seeds time).progress.size =
      (moment setting seeds time).totals.instructions / setting.reportEvery := by
  refine @moment_keeps _ _ _ setting
    (fun state => state.progress.size = state.totals.instructions / setting.reportEvery) seeds ?_ ?_ time
  · exact (Nat.zero_div _).symm
  · intro before after counted move
    cases move with
    | rest | cancel | complete | skip | miss | lack | start | leave | exhaust | join => exact counted
    | @decode call =>
      have one : (before.after setting call).totals.instructions = before.totals.instructions + 1 := by
        rw [State.after_totals]
        rfl
      rw [one, State.after_progress, Nat.succ_div, ← counted]
      by_cases due : (before.totals.instructions + 1) % setting.reportEvery = 0
      · rw [if_pos ⟨observed, spaced, due⟩, if_pos (Nat.dvd_of_mod_eq_zero due), Array.size_push]
      · rw [if_neg fun shown => due shown.2.2, if_neg fun whole => due (Nat.mod_eq_zero_of_dvd whole), Nat.add_zero]

variable {seeds}

theorem finish_of_done {time : Nat} {outcome : Outcome} (stopped : (moment setting seeds time).phase = .done outcome) :
    finish setting seeds = moment setting seeds time := by
  rcases Nat.le_total time (steps setting seeds) with early | late
  · exact moment_of_done setting early stopped
  · obtain ⟨outcome, ended⟩ := finish_done setting seeds
    exact (moment_of_done setting late ended).symm

theorem last_moment (seeds : List UInt64) :
    ∃ last, (∀ outcome, (moment setting seeds last).phase ≠ .done outcome) ∧
      ∃ outcome, (moment setting seeds (last + 1)).phase = .done outcome := by
  obtain ⟨outcome, stopped⟩ := finish_done setting seeds
  change (moment setting seeds (steps setting seeds)).phase = .done outcome at stopped
  -- From the end back to the first moment at which the machine stands still.
  generalize steps setting seeds = time at stopped
  induction time with
  | zero => cases stopped
  | succ time ih =>
    by_cases earlier : (moment setting seeds time).phase = .done outcome
    · exact ih earlier
    · refine ⟨time, ?_, outcome, stopped⟩
      intro other running
      apply earlier
      rw [← stopped, moment_of_done setting (Nat.le_succ time) running]

/-- A traversal stops for a reason, and with what it had decoded and counted when it met it. -/
theorem halts (seeds : List UInt64) :
    ∃ last, (∀ outcome, (moment setting seeds last).phase ≠ .done outcome) ∧
      (moment setting seeds last).Halt setting (traverse setting seeds).outcome ∧
      (traverse setting seeds).trace = (moment setting seeds last).trace.toList ∧
      (traverse setting seeds).totals = (moment setting seeds last).totals := by
  obtain ⟨last, running, outcome, stopped⟩ := last_moment setting seeds
  have final := finish_of_done setting stopped
  have move := State.step_move setting (moment setting seeds last)
  rw [← moment_succ] at move
  obtain ⟨halt, trace, totals⟩ := move.halt setting running stopped
  have ended : (traverse setting seeds).outcome = outcome := by
    simp only [traverse, final, stopped, Phase.outcome]
  refine ⟨last, running, ended ▸ halt, ?_, ?_⟩
  · simp only [traverse, final, trace]
  · simp only [traverse, final, totals]

/-- The result of a traversal, told from the state in which it has a reason to stop. -/
theorem traverse_of_halt {last : Nat} {outcome : Outcome} (halt : (moment setting seeds last).Halt setting outcome) :
    traverse setting seeds =
      { totals := (moment setting seeds last).totals
        outcome
        trace := (moment setting seeds last).trace.toList
        progress := (moment setting seeds last).progress.toList
        log := if outcome = .budgetExhausted then (moment setting seeds last).log.push (State.budgetIssue setting)
          else (moment setting seeds last).log
        issues := (moment setting seeds last).issues.toList ++
          if outcome = .budgetExhausted then [State.budgetIssue setting] else []
        pops := (moment setting seeds last).pops } := by
  have step : moment setting seeds (last + 1) = _ := (moment_succ setting seeds last).trans (halt.step setting)
  have stopped : (moment setting seeds (last + 1)).phase = .done outcome := by
    rw [step]
    rfl
  rw [traverse, finish_of_done setting stopped, step]
  by_cases spent : outcome = .budgetExhausted
  · simp only [spent, if_true, State.enter, State.report, State.polled, Array.toList_push, Phase.outcome]
  · simp only [spent, if_false, State.enter, State.polled, List.append_nil, Phase.outcome]

theorem moment_counted (seeds : List UInt64) (time : Nat) :
    (moment setting seeds time).totals.instructions = (moment setting seeds time).trace.size :=
  (bounded_moment setting seeds time).counted

theorem trace_size (seeds : List UInt64) (time : Nat) :
    (moment setting seeds time).trace.size = ((State.initial setting seeds).calls setting time).length := by
  have trace := congrArg List.length (State.run_trace setting (State.initial setting seeds) time)
  rw [List.length_append, List.length_map] at trace
  exact trace.trans (Nat.zero_add _)

theorem called_iff {place : Nat} {call : Call κ} : (calls setting seeds)[place]? = some call ↔
    ∃ time, (moment setting seeds time).call? setting = some call ∧ (moment setting seeds time).trace.size = place := by
  constructor
  · intro listed
    obtain ⟨time, called, length⟩ := State.called_at setting listed
    exact ⟨time, called, (trace_size setting seeds time).trans length⟩
  · rintro ⟨time, called, rfl⟩
    have early : time < steps setting seeds := by
      by_contra late
      obtain ⟨outcome, stopped⟩ := finish_done setting seeds
      have following := State.call_following setting called
      rw [moment_of_done setting (Nat.le_of_not_lt late) stopped] at following
      cases stopped.symm.trans following
    obtain ⟨rest, whole⟩ := Nat.exists_eq_add_of_lt early
    have now : ((moment setting seeds time).call? setting).toList = [call] := by rw [called]; rfl
    rw [trace_size, calls, whole, Nat.add_assoc, State.calls_add, List.getElem?_append_right (Nat.le_refl _),
      Nat.sub_self, State.calls]
    unfold moment at now
    rw [now]
    rfl

theorem moment_visited (time : Nat) {address : UInt64} : address ∈ (moment setting seeds time).visited ↔
    ∃ visit ∈ (moment setting seeds time).trace,
      address ∈ [visit.address, normalize setting visit.instruction.address] := by
  refine @moment_keeps _ _ _ setting (fun state => address ∈ state.visited ↔ ∃ visit ∈ state.trace,
    address ∈ [visit.address, normalize setting visit.instruction.address]) seeds ?_ ?_ time
  · simp [State.initial]
  · intro before after logged move
    cases move with
    | rest | cancel | complete | skip | miss | lack | start | leave | exhaust | join => exact logged
    | @decode call =>
      rw [State.mem_after_visited, logged, State.after_trace]
      simp only [Array.mem_push, or_and_right, exists_or, exists_eq_left, Call.visit, List.mem_cons,
        List.not_mem_nil, or_false]
      rw [← or_assoc]
      exact or_comm

theorem completes (unlimited : setting.budget = none) (undisturbed : ∀ clock, setting.control.cancelled clock = false)
    (seeds : List UInt64) : (traverse setting seeds).outcome = .completed := by
  obtain ⟨_, _, halt, _⟩ := halts setting seeds
  generalize (traverse setting seeds).outcome = outcome at halt
  cases halt with
  | completed => rfl
  | cancelled _ token => cases token.symm.trans (undisturbed _)
  | exhausted _ _ spent =>
    obtain ⟨limit, limited, _⟩ := (State.exhausted_eq_true setting).mp spent
    cases unlimited.symm.trans limited

/-- The machine looked at its token and found it set. -/
def Noticed (seeds : List UInt64) : Prop :=
  ∃ time, (moment setting seeds time).Asks setting ∧
    setting.control.cancelled (moment setting seeds time).clock = true

theorem cancelled_iff_noticed : (traverse setting seeds).outcome = .cancelled ↔ Noticed setting seeds := by
  constructor
  · intro cancelled
    obtain ⟨last, _, halt, _⟩ := halts setting seeds
    rw [cancelled] at halt
    cases halt with
    | cancelled asks token => exact ⟨last, asks, token⟩
  · rintro ⟨time, asks, token⟩
    have stopped : (moment setting seeds (time + 1)).phase = .done .cancelled := by
      rw [moment_succ, State.step_of_token setting asks token]
      rfl
    rw [traverse, finish_of_done setting stopped]
    simp only [stopped, Phase.outcome]

end Traversal

end IsaCensus
