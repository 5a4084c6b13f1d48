import IsaCensus.Proofs.TraversalIssues

/-! The log of a traversal. Every issue goes to the log that was handed over, and nothing is read from
it again. So traversals that differ in their logs take the same steps, tell of the same issues and
have the same result, but for what is in the log then. -/

namespace IsaCensus

variable {κ φ : Type}

/-- The same traversal with another log. -/
def Setting.logging (setting : Setting κ φ) (log : IssueLog) : Setting κ φ := { setting with log }

namespace Traversal

variable (setting : Setting κ φ)

section
variable [DecidableEq φ]

/-- What is in the log is what was in it before, and then every issue. -/
theorem moment_log (seeds : List UInt64) (time : Nat) : (moment setting seeds time).log =
    (moment setting seeds time).issues.toList.foldl IssueLog.push setting.log := by
  refine @moment_keeps _ _ _ setting
    (fun state => state.log = state.issues.toList.foldl IssueLog.push setting.log) seeds rfl ?_ time
  intro before after kept move
  have pushed (issue : Issue) : before.log.push issue =
      (before.issues.push issue).toList.foldl IssueLog.push setting.log := by
    rw [Array.toList_push, List.foldl_concat, kept]
  cases move with
  | rest | cancel | complete | skip | lack | start | leave | join => exact kept
  | miss | exhaust => exact pushed _
  | @decode call =>
    rw [State.after_log, State.after_issues]
    cases (call.instruction setting).defect? with
    | none => exact kept
    | some defect => exact pushed _

theorem traverse_log (seeds : List UInt64) : (traverse setting seeds).log =
    (traverse setting seeds).issues.foldl IssueLog.push setting.log :=
  moment_log setting seeds (steps setting seeds)

end

namespace State

/-- The state without what is in its log. -/
def unlogged (state : State κ φ) : State κ φ := { state with log := { cap := 0 } }

theorem unlogged_phase (state : State κ φ) : state.unlogged.phase = state.phase := rfl

theorem begin_unlogged (log : IssueLog) (state : State κ φ) (start : UInt64) :
    (state.begin setting start).unlogged = (state.unlogged.begin (setting.logging log) start).unlogged := by
  have place : normalize (setting.logging log) start = normalize setting start := rfl
  simp only [begin, place]
  by_cases known : normalize setting start ∈ state.visited
  · have still : normalize setting start ∈ state.unlogged.visited := known
    simp only [known, still, if_true]
    rfl
  · have still : normalize setting start ∉ state.unlogged.visited := known
    have space : (setting.logging log).space = setting.space := rfl
    simp only [known, still, if_false, space]
    cases setting.space.resolve (normalize setting start) with
    | none => rfl
    | some location =>
      have same : state.unlogged.cursors = state.cursors := rfl
      simp only [same]
      cases state.cursors[location.region]? <;> rfl

variable [DecidableEq φ]

theorem after_unlogged (log : IssueLog) (state : State κ φ) (call : Call κ) :
    (state.after setting call).unlogged = (state.unlogged.after (setting.logging log) call).unlogged := by
  simp only [after, absorb_eq, observe_progress]
  rfl

/-- A step does not look into the log. -/
theorem step_unlogged (log : IssueLog) (state : State κ φ) :
    (state.step setting).unlogged = (state.unlogged.step (setting.logging log)).unlogged := by
  cases phase : state.phase with
  | done outcome =>
    rw [step_of_done setting phase, step_of_done _ ((unlogged_phase state).trans phase)]
    rfl
  | choosing =>
    have token : (setting.logging log).control.cancelled state.unlogged.clock =
      setting.control.cancelled state.clock := rfl
    have stack : state.unlogged.stack = state.stack := rfl
    rw [choose_eq setting phase, choose_eq _ ((unlogged_phase state).trans phase), token, stack]
    cases setting.control.cancelled state.clock with
    | true => rfl
    | false =>
      cases state.stack with
      | nil => rfl
      | cons start rest => exact begin_unlogged setting log state.popped start
  | following region address =>
    have same : state.unlogged.ahead? (setting.logging log) = state.ahead? setting := rfl
    have token : (setting.logging log).control.cancelled state.unlogged.clock =
      setting.control.cancelled state.clock := rfl
    have spent : exhausted (setting.logging log) state.unlogged = exhausted setting state := rfl
    have visited : state.unlogged.visited = state.visited := rfl
    rw [follow_eq setting phase, follow_eq _ ((unlogged_phase state).trans phase), same]
    cases state.ahead? setting with
    | none => rfl
    | some call =>
      simp only [token, spent, visited]
      by_cases stopped : setting.control.cancelled state.clock = true
      · simp only [stopped, if_true]
        rfl
      by_cases empty : exhausted setting state = true
      · simp only [stopped, empty, if_true]
        rfl
      by_cases known : call.address ∈ state.visited
      · simp only [stopped, empty, known, if_true]
        rfl
      · simp only [stopped, empty, known, if_false]
        exact after_unlogged setting log state call

end State

variable [DecidableEq φ]

theorem moment_unlogged (log : IssueLog) (seeds : List UInt64) (time : Nat) :
    (moment setting seeds time).unlogged = (moment (setting.logging log) seeds time).unlogged := by
  induction time with
  | zero => rfl
  | succ time ih =>
    rw [moment_succ, moment_succ, State.step_unlogged setting log, ih]
    exact (State.step_unlogged (setting.logging log) log _).symm

/-- Only the log of the result depends on the log of the setting. -/
theorem traverse_logging (log : IssueLog) (seeds : List UInt64) : traverse (setting.logging log) seeds =
    { traverse setting seeds with log := (traverse setting seeds).issues.foldl IssueLog.push log } := by
  have result (setting : Setting κ φ) : traverse setting seeds =
      { totals := (finish setting seeds).unlogged.totals
        outcome := (finish setting seeds).unlogged.phase.outcome
        trace := (finish setting seeds).unlogged.trace.toList
        progress := (finish setting seeds).unlogged.progress.toList
        log := (finish setting seeds).unlogged.issues.toList.foldl IssueLog.push setting.log
        issues := (finish setting seeds).unlogged.issues.toList
        pops := (finish setting seeds).unlogged.pops } := by
    rw [traverse, Traversal.mk.injEq]
    exact ⟨rfl, rfl, rfl, rfl, traverse_log setting seeds, rfl, rfl⟩
  have same : (finish setting seeds).unlogged = (finish (setting.logging log) seeds).unlogged :=
    moment_unlogged setting log seeds (steps setting seeds)
  rw [result (setting.logging log), ← same]
  rfl

end Traversal

end IsaCensus
