import IsaCensus.Proofs.TraversalEnds

/-! What a traversal reports. Issues only come in addition, each for one reason: an address that
lies nowhere, an instruction that is invalid, or in the end a budget that is exhausted. -/

namespace IsaCensus.Traversal

variable {κ φ : Type} [DecidableEq φ] (setting : Setting κ φ) {seeds : List UInt64}

/-- The kinds of issue that tell of an invalid instruction. -/
def complaints : List IssueKind := [.zeroLengthInstruction, .invalidInstruction, .exception]

theorem complains (defect : Defect) (address : UInt64) : (defect.issue address).kind ∈ complaints := by
  cases defect <;> simp [Defect.issue, complaints]

theorem State.step_issues (state : State κ φ) : state.issues.toList <+: (state.step setting).issues.toList := by
  have move := State.step_move setting state
  generalize state.step setting = next at move ⊢
  cases move with
  | rest | cancel | complete | skip | lack | start | leave | join => exact List.prefix_rfl
  | miss | exhaust =>
    simp only [State.report, State.enter, State.popped, State.polled, Array.toList_push]
    exact List.prefix_append _ _
  | decode =>
    rw [State.after_issues]
    split
    · rw [Array.toList_push]
      exact List.prefix_append _ _
    · exact List.prefix_rfl

theorem moment_issues_prefix (seeds : List UInt64) (time : Nat) :
    (moment setting seeds time).issues.toList <+: (traverse setting seeds).issues := by
  have grown (rest : Nat) : (moment setting seeds time).issues.toList <+:
      (moment setting seeds (time + rest)).issues.toList := by
    induction rest with
    | zero => exact List.prefix_rfl
    | succ rest ih =>
      rw [← Nat.add_assoc, moment_succ]
      exact ih.trans (State.step_issues setting _)
  rcases Nat.le_total time (steps setting seeds) with early | late
  · obtain ⟨rest, whole⟩ := Nat.exists_eq_add_of_le early
    have final := grown rest
    rw [← whole] at final
    exact final
  · obtain ⟨outcome, stopped⟩ := finish_done setting seeds
    rw [moment_of_done setting late stopped]
    exact List.prefix_rfl

theorem running_silent {time : Nat} (running : ∀ outcome, (moment setting seeds time).phase ≠ .done outcome) :
    (moment setting seeds time).issues.countP (fun issue => issue.kind = .budget) = 0 := by
  induction time with
  | zero => rfl
  | succ time ih =>
    have quiet := ih (running_before setting (Nat.le_succ time) running)
    have move := State.step_move setting (moment setting seeds time)
    rw [moment_succ] at running ⊢
    generalize (moment setting seeds time).step setting = next at move running ⊢
    cases move with
    | cancel | complete | exhaust => exact absurd rfl (running _)
    | rest | skip | lack | start | leave | join => exact quiet
    | miss => exact (Array.countP_push ..).trans quiet
    | @decode call =>
      rw [State.after_issues]
      cases (call.instruction setting).defect? with
      | none => exact quiet
      | some defect =>
        have other : (defect.issue (call.instruction setting).address).kind ≠ .budget := fun same =>
          absurd (same ▸ complains defect _) (by decide)
        simpa [Array.countP_push, other] using quiet

/-- A traversal says once that its budget is exhausted if it is, and else never. -/
theorem exhaustion_told (seeds : List UInt64) : (traverse setting seeds).issues.countP (fun issue => issue.kind = .budget) =
    if (traverse setting seeds).outcome = .budgetExhausted then 1 else 0 := by
  obtain ⟨last, running, halt, _⟩ := halts setting seeds
  have quiet := running_silent setting running
  rw [traverse_of_halt setting halt, List.countP_append, Array.countP_toList, quiet, Nat.zero_add]
  split <;> rfl

end IsaCensus.Traversal
