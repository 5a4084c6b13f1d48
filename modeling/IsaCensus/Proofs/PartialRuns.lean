import IsaCensus.Proofs.TraversalEnds

/-! Runs that are cut short. A traversal with a budget, an observer and a cancellation token
takes the same steps as one without, until the step that stops it early. What it has decoded
and counted by then is what the free traversal has decoded and counted at the same moment. -/

namespace IsaCensus

variable {κ φ : Type}

/-- The same traversal without a budget, a token or an observer. -/
def Setting.free (setting : Setting κ φ) : Setting κ φ :=
  { setting with budget := none, reportEvery := 0, control := {} }

@[simp] theorem Setting.free_space (setting : Setting κ φ) : setting.free.space = setting.space := rfl

@[simp] theorem Setting.free_decoder (setting : Setting κ φ) : setting.free.decoder = setting.decoder := rfl

@[simp] theorem Setting.free_clear (setting : Setting κ φ) (clock : Clock) :
    setting.free.control.cancelled clock = false := rfl

namespace Traversal

variable (setting : Setting κ φ)

@[simp] theorem normalize_free : normalize setting.free = normalize setting := rfl

namespace State

/-- The state of a traversal that nobody watches. -/
def unwatched (state : State κ φ) : State κ φ := { state with progress := #[] }

@[simp] theorem unwatched_phase (state : State κ φ) : state.unwatched.phase = state.phase := rfl

@[simp] theorem unwatched_stack (state : State κ φ) : state.unwatched.stack = state.stack := rfl

@[simp] theorem unwatched_visited (state : State κ φ) : state.unwatched.visited = state.visited := rfl

@[simp] theorem unwatched_cursors (state : State κ φ) : state.unwatched.cursors = state.cursors := rfl

@[simp] theorem unwatched_trace (state : State κ φ) : state.unwatched.trace = state.trace := rfl

@[simp] theorem exhausted_free (state : State κ φ) : exhausted setting.free state = false := rfl

@[simp] theorem ahead_unwatched (state : State κ φ) : state.unwatched.ahead? setting.free = state.ahead? setting := rfl

theorem begin_unwatched (state : State κ φ) (start : UInt64) :
    (state.begin setting start).unwatched = state.unwatched.begin setting.free start := by
  simp only [begin, normalize_free, Setting.free_space, Setting.free_decoder, unwatched_visited, unwatched_cursors]
  by_cases known : normalize setting start ∈ state.visited
  · simp only [known, if_true]
  simp only [known, if_false]
  cases setting.space.resolve (normalize setting start) with
  | none => rfl
  | some location =>
    cases held : state.cursors[location.region]? with
    | none => simp only [held]
    | some cursor =>
      simp only [held]
      rfl

variable [DecidableEq φ]

theorem after_unwatched (state : State κ φ) (call : Call κ) :
    (state.after setting call).unwatched = state.unwatched.after setting.free call := by
  have unseen (state : State κ φ) : state.observe setting.free = state := if_neg (by simp [Setting.free])
  simp only [after, absorb_eq, unseen]
  rfl

/-- A step that does not stop the machine early is a step of the free machine. -/
theorem step_unwatched {state : State κ φ}
    (clear : state.Asks setting → setting.control.cancelled state.clock = false)
    (within : (state.ahead? setting).isSome → exhausted setting state = false) :
    (state.step setting).unwatched = state.unwatched.step setting.free := by
  cases phase : state.phase with
  | done outcome => rw [step_of_done setting phase, step_of_done setting.free ((unwatched_phase state).trans phase)]
  | choosing =>
    rw [choose_eq setting phase, choose_eq setting.free ((unwatched_phase state).trans phase), unwatched_stack,
      clear (.inl phase)]
    cases state.stack with
    | nil => rfl
    | cons start rest => exact begin_unwatched setting state.popped start
  | following region address =>
    rw [follow_eq setting phase, follow_eq setting.free ((unwatched_phase state).trans phase), ahead_unwatched]
    cases ahead : state.ahead? setting with
    | none => rfl
    | some call =>
      have ready : (state.ahead? setting).isSome := by rw [ahead]; rfl
      simp only [clear (.inr ready), within ready, Setting.free_clear, exhausted_free, unwatched_visited,
        Bool.false_eq_true, if_false]
      by_cases known : call.address ∈ state.visited
      · simp only [known, if_true]
        rfl
      · simp only [known, if_false]
        exact after_unwatched setting state call

end State

variable [DecidableEq φ] {seeds : List UInt64}

/-- Until it stops, a traversal takes the steps of the free one. -/
theorem moment_unwatched {time : Nat} (running : ∀ outcome, (moment setting seeds time).phase ≠ .done outcome) :
    (moment setting seeds time).unwatched = moment setting.free seeds time := by
  induction time with
  | zero => rfl
  | succ time ih =>
    have before : ∀ outcome, (moment setting seeds time).phase ≠ .done outcome := by
      intro outcome stopped
      apply running outcome
      rw [moment_of_done setting (Nat.le_succ time) stopped]
      exact stopped
    -- A token or a spent budget would stop the machine with this step, but it goes on.
    have clear : (moment setting seeds time).Asks setting →
        setting.control.cancelled (moment setting seeds time).clock = false := by
      intro asks
      by_contra token
      rw [moment_succ, State.step_of_token setting asks (by simpa using token)] at running
      exact running _ rfl
    have within : ((moment setting seeds time).ahead? setting).isSome →
        State.exhausted setting (moment setting seeds time) = false := by
      intro ready
      obtain ⟨call, ahead⟩ := Option.isSome_iff_exists.mp ready
      by_contra spent
      rw [moment_succ, State.step_of_spent setting ahead (clear (.inr ready)) (by simpa using spent)] at running
      exact running _ rfl
    rw [moment_succ, moment_succ, State.step_unwatched setting clear within, ih before]

/-- Whenever the machine looks at its token, it finds it set just if so many instructions have
been decoded: the token was set while the last of them was decoded or reported or, if there are
none, before the start. -/
def CancelledBehind (seeds : List UInt64) (count : Nat) : Prop :=
  ∀ time, (moment setting seeds time).Asks setting →
    (setting.control.cancelled (moment setting seeds time).clock = true ↔
      count ≤ (moment setting seeds time).trace.size)

theorem cancelledAtOnce_behind (seeds : List UInt64) :
    CancelledBehind { setting with control := setting.control.cancelledAtOnce } seeds 0 :=
  fun _ _ => iff_of_true rfl (Nat.zero_le _)

theorem cancelledAtDecode_behind (clear : ∀ clock, setting.control.cancelled clock = false) {count : Nat}
    (positive : 0 < count) (seeds : List UInt64) :
    CancelledBehind { setting with control := setting.control.cancelledAtDecode count } seeds count := by
  intro time _
  rw [← (bounded_moment _ seeds time).counted]
  simp [Control.cancelledAtDecode, clear, positive, State.clock]

theorem cancelledAtReport_behind (clear : ∀ clock, setting.control.cancelled clock = false)
    (observed : setting.control.observed = true) (spaced : 0 < setting.reportEvery) {count : Nat}
    (positive : 0 < count) (seeds : List UInt64) :
    CancelledBehind { setting with control := setting.control.cancelledAtReport count } seeds
      (count * setting.reportEvery) := by
  intro time _
  rw [← (bounded_moment _ seeds time).counted, ← Nat.le_div_iff_mul_le spaced,
    ← moment_reports { setting with control := setting.control.cancelledAtReport count } observed spaced]
  simp [Control.cancelledAtReport, clear, positive, State.clock]

def decoded (seeds : List UInt64) : Nat := (traverse setting seeds).trace.length

theorem decoded_before_token {count : Nat} (behind : CancelledBehind setting seeds count) (time : Nat) :
    (moment setting seeds time).trace.size ≤ count := by
  induction time with
  | zero => exact Nat.zero_le count
  | succ time ih =>
    have trace := congrArg List.length (State.step_trace setting (moment setting seeds time))
    rw [← moment_succ, List.length_append, List.length_map, Array.length_toList, Array.length_toList] at trace
    cases called : (moment setting seeds time).call? setting with
    | none =>
      rw [called] at trace
      exact trace ▸ ih
    | some call =>
      obtain ⟨ahead, clear, _⟩ := (State.call_eq_some setting).mp called
      have early : ¬ count ≤ (moment setting seeds time).trace.size := by
        rw [← behind time (State.asks_of_ahead setting ahead), clear]
        exact Bool.false_ne_true
      rw [called] at trace
      simp only [Option.toList_some, List.length_singleton] at trace
      omega

theorem completed_free {last : Nat} (choosing : (moment setting seeds last).phase = .choosing)
    (empty : (moment setting seeds last).stack = [])
    (same : (moment setting seeds last).unwatched = moment setting.free seeds last) :
    (traverse setting.free seeds).trace = (moment setting seeds last).trace.toList := by
  have step : moment setting.free seeds (last + 1) =
      (moment setting seeds last).unwatched.polled.enter (.done .completed) := by
    have still : (moment setting seeds last).unwatched.phase = .choosing := choosing
    rw [moment_succ, ← same, State.choose_eq setting.free still, State.unwatched_stack, empty]
    rfl
  have stopped : (moment setting.free seeds (last + 1)).phase = .done .completed := by
    rw [step]
    rfl
  rw [traverse, finish_of_done setting.free stopped, step]
  rfl

/-- A token that is set in time stops the machine at its next look, whatever is left of the budget. -/
theorem cancelled_promptly {count : Nat} (reach : count ≤ decoded setting.free seeds)
    (afford : ∀ limit, setting.budget = some limit → count ≤ limit) (behind : CancelledBehind setting seeds count) :
    decoded setting seeds = count ∧ (traverse setting seeds).outcome = .cancelled := by
  obtain ⟨last, running, halt, trace, _⟩ := halts setting seeds
  have same := moment_unwatched setting running
  have size : decoded setting seeds = (moment setting seeds last).trace.size := congrArg List.length trace
  have bound := decoded_before_token setting behind last
  generalize ended : (traverse setting seeds).outcome = outcome at halt
  cases halt with
  | cancelled asks token =>
    have late := (behind last asks).mp token
    exact ⟨size.trans (Nat.le_antisymm bound late), rfl⟩
  | completed choosing clear empty =>
    have whole := congrArg List.length (completed_free setting choosing empty same)
    have late : count ≤ (moment setting seeds last).trace.size := Nat.le_trans reach (Nat.le_of_eq whole)
    cases clear.symm.trans ((behind last (.inl choosing)).mpr late)
  | exhausted ahead clear spent =>
    obtain ⟨limit, limited, reached⟩ := (State.exhausted_eq_true setting).mp spent
    rw [(bounded_moment setting seeds last).counted] at reached
    have late := Nat.le_trans (afford limit limited) reached
    cases clear.symm.trans ((behind last (State.asks_of_ahead setting ahead)).mpr late)

/-- A traversal that never sees its token set ends with its work done or its budget spent. -/
theorem unnoticed_ends (unnoticed : ¬ Noticed setting seeds) :
    ((traverse setting seeds).outcome = .completed ∧ decoded setting seeds = decoded setting.free seeds) ∨
    ((traverse setting seeds).outcome = .budgetExhausted ∧ setting.budget = some (decoded setting seeds)) := by
  obtain ⟨last, running, halt, trace, _⟩ := halts setting seeds
  have same := moment_unwatched setting running
  have size : decoded setting seeds = (moment setting seeds last).trace.size := congrArg List.length trace
  generalize ended : (traverse setting seeds).outcome = outcome at halt
  cases halt with
  | cancelled asks token => exact absurd ⟨last, asks, token⟩ unnoticed
  | completed choosing clear empty =>
    have whole := congrArg List.length (completed_free setting choosing empty same)
    exact .inl ⟨rfl, size.trans whole.symm⟩
  | exhausted ahead clear spent =>
    obtain ⟨limit, limited, reached⟩ := (State.exhausted_eq_true setting).mp spent
    have within := moment_within setting seeds limited last
    rw [(bounded_moment setting seeds last).counted] at reached within
    exact .inr ⟨rfl, by rw [limited, size, Nat.le_antisymm within reached]⟩

/-- A traversal that is limited or interrupted is an exact beginning of the free one. -/
theorem partial_run_exact (seeds : List UInt64) :
    (traverse setting seeds).trace <+: (traverse setting.free seeds).trace ∧
    (∀ limit, setting.budget = some limit → decoded setting seeds ≤ limit) ∧
    (∃ time, (moment setting.free seeds time).trace.size = decoded setting seeds) ∧
    (∀ time, (moment setting.free seeds time).trace.size = decoded setting seeds →
      (moment setting.free seeds time).totals = (traverse setting seeds).totals) ∧
    ((traverse setting seeds).outcome = .cancelled ↔ Noticed setting seeds) ∧
    (∀ count ≤ decoded setting.free seeds, (∀ limit, setting.budget = some limit → count ≤ limit) →
      CancelledBehind setting seeds count →
      decoded setting seeds = count ∧ (traverse setting seeds).outcome = .cancelled) ∧
    (¬ Noticed setting seeds →
      decoded setting seeds = setting.budget.elim (decoded setting.free seeds) (min (decoded setting.free seeds)) ∧
      (∀ limit, setting.budget = some limit → limit < decoded setting.free seeds →
        (traverse setting seeds).outcome = .budgetExhausted) ∧
      ((∀ limit, setting.budget = some limit → decoded setting.free seeds < limit) →
        (traverse setting seeds).outcome = .completed)) := by
  obtain ⟨last, running, _, trace, totals⟩ := halts setting seeds
  have same := moment_unwatched setting running
  have copied : (moment setting.free seeds last).trace = (moment setting seeds last).trace := by
    rw [← same, State.unwatched_trace]
  have beginning : (traverse setting seeds).trace <+: (traverse setting.free seeds).trace := by
    rw [trace, ← copied]
    exact moment_trace_prefix setting.free seeds last
  have within : ∀ limit, setting.budget = some limit → decoded setting seeds ≤ limit := by
    intro limit limited
    have bound := moment_within setting seeds limited last
    rw [(bounded_moment setting seeds last).counted] at bound
    rw [decoded, trace]
    exact bound
  refine ⟨beginning, within, ⟨last, ?_⟩, ?_, cancelled_iff_noticed setting, ?_, ?_⟩
  · rw [copied, decoded, trace, Array.length_toList]
  · intro time length
    have before := moment_trace_prefix setting.free seeds time
    have equal : (moment setting.free seeds time).trace.toList = (traverse setting seeds).trace :=
      (List.prefix_of_prefix_length_le before beginning (Nat.le_of_eq length)).eq_of_length length
    rw [moment_totals setting.free, equal, totals, moment_totals setting, trace]
    rfl
  · intro count reach afford behind
    exact cancelled_promptly setting reach afford behind
  · intro unnoticed
    have shorter : decoded setting seeds ≤ decoded setting.free seeds := beginning.length_le
    rcases unnoticed_ends setting unnoticed with ⟨completed, whole⟩ | ⟨exhausted, spent⟩
    · refine ⟨?_, ?_, fun _ => completed⟩
      · cases limited : setting.budget with
        | none => exact whole
        | some limit =>
          have bound := within limit limited
          simp only [Option.elim_some]
          omega
      · intro limit limited short
        have bound := within limit limited
        omega
    · refine ⟨?_, fun _ _ _ => exhausted, ?_⟩
      · rw [spent]
        simp only [Option.elim_some]
        omega
      · intro enough
        have more := enough _ spent
        omega

end Traversal

end IsaCensus
