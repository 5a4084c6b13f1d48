import IsaCensus.Proofs.PartialRuns
import IsaCensus.Proofs.TraversalProgress

/-! Traversals with and without an observer. Snapshots are taken on the way and never looked at
again, so a traversal is the same however often they are taken and whether or not anybody sees
them, unless the observer cancels it. They come at equal distances to the end of the traversal,
whatever ends its paths and for whatever reason it stops. No law of the decoder is used. -/

namespace IsaCensus

variable {κ φ : Type}

/-- Whether the token is set does not depend on what has been reported: the observer does not cancel. -/
def Control.IgnoresReports (control : Control) : Prop :=
  ∀ clock reports, control.cancelled { clock with reports } = control.cancelled clock

/-- The same traversal with other snapshots, or with an observer more or less. -/
def Setting.watched (setting : Setting κ φ) (reportEvery : Nat) (observed : Bool) : Setting κ φ :=
  { setting with reportEvery, control := { setting.control with observed } }

variable [DecidableEq φ] (setting : Setting κ φ)

/-- Every snapshot counts the instructions up to a multiple of the distance between two. -/
theorem Setting.shown_instructions (visits : List (Visit φ)) : (setting.shown visits).map Snapshot.instructions =
    if setting.control.observed = true ∧ 0 < setting.reportEvery then
      (List.range (visits.length / setting.reportEvery)).map fun place => (place + 1) * setting.reportEvery
    else [] := by
  unfold shown
  split
  next watched =>
    rw [List.map_map]
    apply List.map_congr_left
    intro place member
    have whole : (place + 1) * setting.reportEvery ≤ visits.length :=
      (Nat.le_div_iff_mul_le watched.2).mp (List.mem_range.mp member)
    have positive : 0 < (place + 1) * setting.reportEvery := Nat.mul_pos (Nat.succ_pos place) watched.2
    change (Totals.over setting.sampled (visits.take ((place + 1) * setting.reportEvery - 1))).instructions + 1 = _
    rw [Totals.over_instructions, List.length_take]
    omega
  next => rfl

namespace Traversal

/-- A step does not look at the snapshots. -/
theorem State.step_watched (ignored : setting.control.IgnoresReports) (state : State κ φ) :
    (state.step setting).unwatched = state.unwatched.step (setting.watched 0 false) := by
  have token : (setting.watched 0 false).control.cancelled state.unwatched.clock =
      setting.control.cancelled state.clock := ignored state.clock 0
  cases phase : state.phase with
  | done outcome => rw [step_of_done setting phase, step_of_done _ ((unwatched_phase state).trans phase)]
  | choosing =>
    rw [choose_eq setting phase, choose_eq _ ((unwatched_phase state).trans phase), token, unwatched_stack]
    cases setting.control.cancelled state.clock with
    | true => rfl
    | false =>
      cases state.stack with
      | nil => rfl
      | cons start rest => exact begin_unwatched setting state.popped start
  | following region address =>
    have same : state.unwatched.ahead? (setting.watched 0 false) = state.ahead? setting := rfl
    have spent : exhausted (setting.watched 0 false) state.unwatched = exhausted setting state := rfl
    rw [follow_eq setting phase, follow_eq _ ((unwatched_phase state).trans phase), same]
    cases state.ahead? setting with
    | none => rfl
    | some call =>
      simp only [token, spent, unwatched_visited]
      by_cases stopped : setting.control.cancelled state.clock = true
      · simp only [stopped, if_true]
        rfl
      by_cases empty : exhausted setting state = true
      · simp only [stopped, empty, if_true]
        rfl
      by_cases known : call.address ∈ state.visited
      · simp only [stopped, empty, known, if_true]
        rfl
      · simp only [stopped, empty, known, if_false]
        exact after_unwatched setting state call

variable {setting}

theorem moment_watched (ignored : setting.control.IgnoresReports) (seeds : List UInt64) (time : Nat) :
    (moment setting seeds time).unwatched = moment (setting.watched 0 false) seeds time := by
  induction time with
  | zero => rfl
  | succ time ih => rw [moment_succ, moment_succ, State.step_watched setting ignored, ih]

/-- Traversals that come to the same state have the same result, but for their snapshots. -/
theorem traverse_of_unwatched {other : Setting κ φ} {seeds : List UInt64}
    (same : (finish other seeds).unwatched = (finish setting seeds).unwatched) :
    traverse other seeds = { traverse setting seeds with progress := (traverse other seeds).progress } := by
  have result (setting : Setting κ φ) : traverse setting seeds =
      { totals := (finish setting seeds).unwatched.totals
        outcome := (finish setting seeds).unwatched.phase.outcome
        trace := (finish setting seeds).unwatched.trace.toList
        progress := (traverse setting seeds).progress
        log := (finish setting seeds).unwatched.log
        issues := (finish setting seeds).unwatched.issues.toList
        pops := (finish setting seeds).unwatched.pops } := rfl
  rw [result other, same, result setting]

variable (setting)

/-- Watching a traversal does not change it. With snapshots at another distance, with none, and with
or without an observer who does not cancel, everything but the snapshots is the same. The observer
is shown one snapshot for each so many instructions, which says how many there have been; and none if
there is no distance, or no observer. This also holds of a traversal that is cut short. -/
theorem watching_changes_nothing (seeds : List UInt64) :
    (setting.control.IgnoresReports → ∀ reportEvery observed,
      traverse (setting.watched reportEvery observed) seeds =
        { traverse setting seeds with progress := (traverse (setting.watched reportEvery observed) seeds).progress }) ∧
    (setting.control.observed = true → 0 < setting.reportEvery →
      (traverse setting seeds).progress.length = (traverse setting seeds).trace.length / setting.reportEvery ∧
      ∀ place snapshot, (traverse setting seeds).progress[place]? = some snapshot →
        snapshot.instructions = (place + 1) * setting.reportEvery) ∧
    (setting.control.observed = false ∨ setting.reportEvery = 0 → (traverse setting seeds).progress = []) := by
  refine ⟨?_, ?_, ?_⟩
  · intro ignored reportEvery observed
    have first := moment_watched ignored seeds (steps setting seeds)
    have second : (moment (setting.watched reportEvery observed) seeds (steps setting seeds)).unwatched = _ :=
      @moment_watched _ _ _ (setting.watched reportEvery observed) ignored seeds (steps setting seeds)
    exact traverse_of_unwatched (second.trans first.symm)
  · intro observed spaced
    refine ⟨progress_length setting observed spaced seeds, ?_⟩
    intro place snapshot shown
    have instructions := congrArg (·[place]?) (setting.shown_instructions (traverse setting seeds).trace)
    simp only [if_pos (And.intro observed spaced), ← traverse_progress, List.getElem?_map, shown] at instructions
    obtain ⟨earlier, found, counted⟩ := Option.map_eq_some_iff.mp instructions.symm
    obtain ⟨_, rfl⟩ := List.getElem?_eq_some_iff.mp found
    rw [List.getElem_range] at counted
    exact counted.symm
  · intro silent
    rw [traverse_progress, Setting.shown, if_neg]
    rintro ⟨observed, spaced⟩
    rcases silent with alone | never
    · cases observed.symm.trans alone
    · exact absurd never (Nat.ne_of_gt spaced)

/-- One return, seen by an observer and not. -/
theorem lone_watched :
    lone.control.IgnoresReports ∧ lone.control.observed = true ∧ 0 < lone.reportEvery ∧
    (traverse (lone.watched 0 false) [0x1000]).trace = (traverse lone [0x1000]).trace ∧
    (traverse lone [0x1000]).progress.length = 1 ∧
    ∀ snapshot, (traverse lone [0x1000]).progress[0]? = some snapshot → snapshot.instructions = 1 := by
  have ignored : lone.control.IgnoresReports := fun _ _ => rfl
  obtain ⟨same, shown, _⟩ := watching_changes_nothing lone [0x1000]
  obtain ⟨length, counted⟩ := shown rfl Nat.one_pos
  rw [lone_trace] at length
  refine ⟨ignored, rfl, Nat.one_pos, ?_, length, counted 0⟩
  rw [same ignored 0 false]

end Traversal

end IsaCensus
