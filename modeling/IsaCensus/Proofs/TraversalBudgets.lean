import IsaCensus.Proofs.TraversalCounts
import IsaCensus.Proofs.X86Laws

/-! What a budget changes. A traversal with a budget takes the same steps as one with a larger
budget, or with none, until it would go on along a path with its budget spent. It asks for its
budget before it looks whether the code ahead was decoded before, so a path that runs on into
such code exhausts a budget that is just large enough for everything. No law of the decoder is used. -/

namespace IsaCensus

variable {κ φ : Type}

/-- The same traversal with a budget of so many instructions. -/
def Setting.limited (setting : Setting κ φ) (count : Nat) : Setting κ φ := { setting with budget := some count }

/-- The same traversal without a budget. -/
def Setting.unlimited (setting : Setting κ φ) : Setting κ φ := { setting with budget := none }

@[simp] theorem Setting.limited_control (setting : Setting κ φ) (count : Nat) :
    (setting.limited count).control = setting.control := rfl

namespace Traversal

variable (setting : Setting κ φ)

/-- Control runs on behind the instruction, in its region and with bytes left there. -/
def Call.runsOn (call : Call κ) : Bool :=
  State.continues setting call.region (call.instruction setting) &&
    setting.decoder.hasRemaining (setting.decoder.decode call.cursor).2

namespace State

/-- A path goes on, and so many instructions have been decoded. -/
def Spent (count : Nat) (state : State κ φ) : Prop :=
  (state.ahead? setting).isSome ∧ count ≤ state.totals.instructions

variable {count : Nat}

theorem begin_limited (state : State κ φ) (start : UInt64) :
    state.begin (setting.limited count) start = state.begin setting start := rfl

variable [DecidableEq φ]

theorem after_limited (state : State κ φ) (call : Call κ) :
    state.after (setting.limited count) call = state.after setting call := rfl

theorem step_limited (afford : ∀ limit, setting.budget = some limit → count ≤ limit) {state : State κ φ}
    (unspent : ¬ state.Spent setting count) : state.step (setting.limited count) = state.step setting := by
  cases phase : state.phase with
  | done outcome => rw [step_of_done _ phase, step_of_done _ phase]
  | choosing =>
    rw [choose_eq _ phase, choose_eq _ phase]
    simp only [Setting.limited_control, begin_limited]
    rfl
  | following region address =>
    have same : state.ahead? (setting.limited count) = state.ahead? setting := rfl
    rw [follow_eq _ phase, follow_eq _ phase, same]
    cases ahead : state.ahead? setting with
    | none => rfl
    | some call =>
      have early : state.totals.instructions < count := by
        by_contra late
        exact unspent ⟨by rw [ahead]; rfl, Nat.le_of_not_lt late⟩
      have tight : exhausted (setting.limited count) state = false := decide_eq_false (Nat.not_le_of_lt early)
      have loose : exhausted setting state = false := by
        by_contra spent
        obtain ⟨limit, limited, reached⟩ := (exhausted_eq_true setting).mp (by simpa using spent)
        have enough := afford limit limited
        omega
      simp only [Setting.limited_control, tight, loose, Bool.false_eq_true, if_false, after_limited]

theorem after_ahead {state : State κ φ} {call : Call κ} (called : state.call? setting = some call) :
    (state.after setting call).ahead? setting =
      if call.runsOn setting then some ⟨call.region, normalize setting (call.instruction setting).next,
        (setting.decoder.decode call.cursor).2⟩
      else none := by
  have held := ((ahead_eq_some setting).mp ((call_eq_some setting).mp called).1).2.1
  have inside := (Array.getElem?_eq_some_iff.mp held).1
  unfold ahead? Call.runsOn
  rw [after_phase, after_cursors]
  cases continues setting call.region (call.instruction setting) with
  | false => rfl
  | true =>
    simp only [if_true, Bool.true_and, Array.getElem?_setIfInBounds_self, inside]
    cases remaining : setting.decoder.hasRemaining (setting.decoder.decode call.cursor).2 <;>
      simp [Option.filter, remaining]

end State

variable [DecidableEq φ] {seeds : List UInt64}

section Limited
variable {count : Nat}

theorem moment_limited (afford : ∀ limit, setting.budget = some limit → count ≤ limit) {time : Nat}
    (unspent : ∀ earlier < time, ¬ (moment setting seeds earlier).Spent setting count) :
    moment (setting.limited count) seeds time = moment setting seeds time := by
  induction time with
  | zero => rfl
  | succ time ih =>
    have same := ih fun earlier before => unspent earlier (Nat.lt_succ_of_lt before)
    rw [moment_succ, moment_succ, same, State.step_limited setting afford (unspent time (Nat.lt_succ_self time))]

/-- A budget is never spent, or there is a first moment at which it is and a path goes on. -/
theorem limited_cases (seeds : List UInt64) (afford : ∀ limit, setting.budget = some limit → count ≤ limit) :
    ((∀ time, ¬ (moment setting seeds time).Spent setting count) ∧
      traverse (setting.limited count) seeds = traverse setting seeds) ∨
    ∃ time, (moment setting seeds time).Spent setting count ∧ (moment setting seeds time).trace.size = count ∧
      moment (setting.limited count) seeds time = moment setting seeds time := by
  classical
  by_cases spends : ∃ time, (moment setting seeds time).Spent setting count
  · right
    have spent := Nat.find_spec spends
    have same : moment (setting.limited count) seeds (Nat.find spends) = moment setting seeds (Nat.find spends) :=
      moment_limited setting afford fun earlier before => Nat.find_min spends before
    refine ⟨Nat.find spends, spent, ?_, same⟩
    have within := moment_within (setting.limited count) seeds rfl (Nat.find spends)
    rw [same, moment_counted] at within
    have reached := spent.2
    rw [moment_counted] at reached
    exact Nat.le_antisymm within reached
  · left
    have unspent : ∀ time, ¬ (moment setting seeds time).Spent setting count := fun time spent => spends ⟨time, spent⟩
    refine ⟨unspent, ?_⟩
    have same : finish (setting.limited count) seeds = finish setting seeds :=
      moment_limited setting afford fun earlier _ => unspent earlier
    rw [traverse, traverse, same]

theorem halt_of_spent {time : Nat} (spent : (moment setting seeds time).Spent setting count)
    (same : moment (setting.limited count) seeds time = moment setting seeds time) :
    ∃ outcome, (moment (setting.limited count) seeds time).Halt (setting.limited count) outcome ∧
      ((∀ clock, setting.control.cancelled clock = false) → outcome = .budgetExhausted) := by
  obtain ⟨call, ahead⟩ := Option.isSome_iff_exists.mp spent.1
  rw [same]
  cases token : setting.control.cancelled (moment setting seeds time).clock with
  | true =>
    refine ⟨.cancelled, .cancelled (State.asks_of_ahead setting ahead) token, ?_⟩
    intro undisturbed
    cases token.symm.trans (undisturbed _)
  | false => exact ⟨.budgetExhausted, .exhausted ahead token (decide_eq_true spent.2), fun _ => rfl⟩

theorem trace_within (seeds : List UInt64) {limit : Nat} (limited : setting.budget = some limit) :
    (traverse setting seeds).trace.length ≤ limit := by
  have within := moment_within setting seeds limited (steps setting seeds)
  rwa [moment_counted] at within

/-- A budget keeps just so many instructions of what would be decoded without it. -/
theorem trace_limited (seeds : List UInt64) (afford : ∀ limit, setting.budget = some limit → count ≤ limit) :
    (traverse (setting.limited count) seeds).trace = (traverse setting seeds).trace.take count := by
  rcases limited_cases setting seeds afford with ⟨_, same⟩ | ⟨time, spent, size, same⟩
  · rw [← same]
    exact (List.take_of_length_le (trace_within (setting.limited count) seeds rfl)).symm
  · obtain ⟨outcome, halt, _⟩ := halt_of_spent setting spent same
    have beginning := moment_trace_prefix setting seeds time
    rw [traverse_of_halt _ halt, same, ← size]
    exact List.prefix_iff_eq_take.mp beginning

theorem totals_limited (seeds : List UInt64) (afford : ∀ limit, setting.budget = some limit → count ≤ limit) :
    (traverse (setting.limited count) seeds).totals = .over setting.sampled ((traverse setting seeds).trace.take count) := by
  rw [traverse_totals, trace_limited setting seeds afford]
  rfl

/-- Without a token, a budget is exhausted just if a path would go on when it is spent. -/
theorem exhausted_iff_spent (seeds : List UInt64) (unlimited : setting.budget = none)
    (undisturbed : ∀ clock, setting.control.cancelled clock = false) :
    (traverse (setting.limited count) seeds).outcome = .budgetExhausted ↔
      ∃ time, (moment setting seeds time).Spent setting count := by
  have afford : ∀ limit, setting.budget = some limit → count ≤ limit := by
    intro limit limited
    cases unlimited.symm.trans limited
  rcases limited_cases setting seeds afford with ⟨unspent, same⟩ | ⟨time, spent, _, same⟩
  · rw [same, completes setting unlimited undisturbed]
    constructor
    · intro never
      cases never
    · rintro ⟨time, spent⟩
      exact absurd spent (unspent time)
  · obtain ⟨outcome, halt, exhausted⟩ := halt_of_spent setting spent same
    rw [traverse_of_halt _ halt]
    exact iff_of_true (exhausted undisturbed) ⟨time, spent⟩

end Limited

/-- A path stands before decoded code only if the last instruction has run on into it. -/
theorem rejoined {time : Nat} {call : Call κ} (ahead : (moment setting seeds time).ahead? setting = some call)
    (known : call.address ∈ (moment setting seeds time).visited) :
    ∃ last, (calls setting seeds)[(moment setting seeds time).trace.size - 1]? = some last ∧
      last.runsOn setting = true ∧ normalize setting (last.instruction setting).next = call.address := by
  cases time with
  | zero => cases ((State.ahead_eq_some setting).mp ahead).1
  | succ time =>
    have move := State.step_move setting (moment setting seeds time)
    rw [moment_succ] at ahead known ⊢
    generalize (moment setting seeds time).step setting = next at move ahead known ⊢
    have following := ((State.ahead_eq_some setting).mp ahead).1
    cases move with
    | rest stopped => cases stopped.symm.trans following
    | cancel | complete | leave | exhaust | join => cases following
    | skip choosing | miss choosing | lack choosing => cases choosing.symm.trans following
    | start _ _ _ fresh =>
      simp only at following
      split at following
      next =>
        rw [← (Phase.following.inj following).2] at known
        exact absurd known fresh
      next => cases following
    | @decode last called =>
      rw [State.after_ahead setting called] at ahead
      split at ahead
      next runs =>
        cases ahead
        refine ⟨last, ?_, runs, rfl⟩
        rw [State.after_trace, Array.size_push, Nat.add_sub_cancel]
        exact (called_iff setting).mpr ⟨time, called, rfl⟩
      next => cases ahead

/-- The last instruction of a traversal runs on into code that was decoded before. -/
def Rejoins (seeds : List UInt64) : Prop :=
  ∃ call, (calls setting seeds).getLast? = some call ∧ call.runsOn setting = true ∧
    ∃ visit ∈ (traverse setting seeds).trace,
      normalize setting (call.instruction setting).next ∈ [visit.address, normalize setting visit.instruction.address]

theorem spent_iff (unlimited : setting.budget = none) (undisturbed : ∀ clock, setting.control.cancelled clock = false)
    (seeds : List UInt64) (count : Nat) : (∃ time, (moment setting seeds time).Spent setting count) ↔
      count < (traverse setting seeds).trace.length ∨
      (traverse setting seeds).trace.length = count ∧ Rejoins setting seeds := by
  have decoded : (traverse setting seeds).trace.length = (calls setting seeds).length := by
    rw [trace_calls, List.length_map]
  constructor
  · rintro ⟨time, ready, reached⟩
    obtain ⟨call, ahead⟩ := Option.isSome_iff_exists.mp ready
    have part := moment_trace_prefix setting seeds time
    have size := part.length_le
    rw [moment_counted] at reached
    rw [Array.length_toList] at size
    by_cases known : call.address ∈ (moment setting seeds time).visited
    · obtain ⟨last, listed, runs, same⟩ := rejoined setting ahead known
      by_cases cut : count < (traverse setting seeds).trace.length
      · exact .inl cut
      · have whole : (moment setting seeds time).trace.size = (calls setting seeds).length := by omega
        obtain ⟨visit, present, equal⟩ := (moment_visited setting time).mp known
        refine .inr ⟨by omega, last, ?_, runs, visit, part.subset (Array.mem_toList_iff.mpr present), ?_⟩
        · rw [List.getLast?_eq_getElem?, ← whole]
          exact listed
        · rw [same]
          exact equal
    · have within : State.exhausted setting (moment setting seeds time) = false := by
        simp only [State.exhausted, unlimited]
      have called := (State.call_eq_some setting).mpr ⟨ahead, undisturbed _, within, known⟩
      obtain ⟨more, _⟩ := List.getElem?_eq_some_iff.mp ((called_iff setting).mpr ⟨time, called, rfl⟩)
      exact .inl (by omega)
  · rintro (cut | ⟨whole, call, last, runs, _⟩)
    · rw [decoded] at cut
      obtain ⟨time, called, size⟩ := (called_iff setting).mp (List.getElem?_eq_getElem cut)
      refine ⟨time, ?_, ?_⟩
      · rw [((State.call_eq_some setting).mp called).1]
        rfl
      · rw [moment_counted, size]
    · rw [List.getLast?_eq_getElem?] at last
      obtain ⟨inside, _⟩ := List.getElem?_eq_some_iff.mp last
      obtain ⟨time, called, size⟩ := (called_iff setting).mp last
      have step := (moment_succ setting seeds time).trans (State.step_of_call setting called)
      refine ⟨time + 1, ?_, ?_⟩
      · rw [step, State.after_ahead setting called, if_pos runs]
        rfl
      · rw [moment_counted, step, State.after_trace, Array.size_push]
        omega

/-- A budget is exhausted if it cuts something off, or if it is just large enough but the last
instruction runs on into decoded code. Otherwise the traversal is the same as without it. -/
theorem exhausted_iff_cut_or_rejoins (undisturbed : ∀ clock, setting.control.cancelled clock = false)
    (seeds : List UInt64) (count : Nat) :
    ((traverse (setting.limited count) seeds).outcome = .budgetExhausted ↔
      count < (traverse setting.unlimited seeds).trace.length ∨
      (traverse setting.unlimited seeds).trace.length = count ∧ Rejoins setting.unlimited seeds) ∧
    ((traverse (setting.limited count) seeds).outcome ≠ .budgetExhausted →
      traverse (setting.limited count) seeds = traverse setting.unlimited seeds ∧
      (traverse setting.unlimited seeds).outcome = .completed) ∧
    ((traverse (setting.limited count) seeds).outcome = .budgetExhausted →
      ∃ earlier, earlier <+: (traverse setting.unlimited seeds).issues ∧
        (traverse (setting.limited count) seeds).issues =
          earlier ++ [State.budgetIssue (setting.limited count)]) ∧
    (traverse (setting.limited count) seeds).issues.countP (fun issue => issue.kind = .budget) =
      (if (traverse (setting.limited count) seeds).outcome = .budgetExhausted then 1 else 0) ∧
    ((traverse setting.unlimited seeds).trace.length ≤ count →
      (traverse (setting.limited count) seeds).trace = (traverse setting.unlimited seeds).trace ∧
      (traverse (setting.limited count) seeds).totals = (traverse setting.unlimited seeds).totals) := by
  have afford : ∀ limit, setting.unlimited.budget = some limit → count ≤ limit := nofun
  have exhausted : (traverse (setting.limited count) seeds).outcome = .budgetExhausted ↔ _ :=
    exhausted_iff_spent setting.unlimited seeds rfl undisturbed
  have cases : _ ∨ ∃ time, _ ∧ _ ∧ moment (setting.limited count) seeds time = _ :=
    limited_cases setting.unlimited seeds afford
  refine ⟨?_, ?_, ?_, exhaustion_told _ seeds, ?_⟩
  · exact exhausted.trans (spent_iff setting.unlimited rfl undisturbed seeds count)
  · intro complete
    rcases cases with ⟨_, same⟩ | ⟨time, spent, _⟩
    · exact ⟨same, completes setting.unlimited rfl undisturbed seeds⟩
    · exact absurd (exhausted.mpr ⟨time, spent⟩) complete
  · intro stopped
    rcases cases with ⟨unspent, _⟩ | ⟨time, spent, _, same⟩
    · obtain ⟨time, spent⟩ := exhausted.mp stopped
      exact absurd spent (unspent time)
    · obtain ⟨outcome, halt, spends⟩ := halt_of_spent setting.unlimited spent same
      refine ⟨(moment setting.unlimited seeds time).issues.toList, moment_issues_prefix _ seeds time, ?_⟩
      have told : (traverse (setting.limited count) seeds).issues = _ :=
        congrArg Traversal.issues (traverse_of_halt _ halt)
      rw [told, spends undisturbed, same]
      rfl
  · intro enough
    have trace : (traverse (setting.limited count) seeds).trace = (traverse setting.unlimited seeds).trace :=
      (trace_limited setting.unlimited seeds afford).trans (List.take_of_length_le enough)
    refine ⟨trace, ?_⟩
    rw [traverse_totals, traverse_totals, trace]
    rfl

/-- An instruction that is run through, and a return behind it. -/
def rejoining : Setting X86.Cursor X86.Extension where
  decoder := X86.decoder .bits64
  space := { domain := .va64, regions := [{ base := 0x1000, bytes := #[0x90, 0xc3] }] }
  sampled := 2

def rejoiningCursor (position : Nat) : X86.Cursor :=
  { mode := .bits64, bytes := #[0x90, 0xc3], base := 0x1000, position }

theorem rejoining_decoded : (traverse rejoining.unlimited [0x1001, 0x1000]).trace.length ≤ 2 :=
  Nat.le_trans (Nat.le_of_add_right_le (bounded_moment rejoining.unlimited [0x1001, 0x1000] _).decoded)
    (Space.card_covered_le rejoining.space)

/-- The return is decoded first, and then the path comes to stand before it. -/
theorem rejoining_spent : (moment rejoining [0x1001, 0x1000] 4).Spent rejoining 2 := by
  have first : moment rejoining [0x1001, 0x1000] 1 = _ := (moment_succ ..).trans
    (State.step_of_start rejoining rfl rfl rfl Std.HashSet.not_mem_empty rfl rfl rfl)
  have returns : (moment rejoining [0x1001, 0x1000] 1).call? rejoining = some ⟨0, 0x1001, rejoiningCursor 1⟩ := by
    rw [first]
    exact (State.call_eq_some rejoining).mpr
      ⟨(State.ahead_eq_some rejoining).mpr ⟨rfl, rfl, rfl⟩, rfl, rfl, Std.HashSet.not_mem_empty⟩
  have second := (moment_succ rejoining [0x1001, 0x1000] 1).trans (State.step_of_call rejoining returns)
  have fresh : (0x1000 : UInt64) ∉ (moment rejoining [0x1001, 0x1000] 2).visited := by
    rw [second, State.mem_after_visited, first]
    rintro (same | same | old)
    · cases same
    · cases same
    · exact Std.HashSet.not_mem_empty old
  have choosing : (moment rejoining [0x1001, 0x1000] 2).phase = .choosing := by
    rw [second, State.after_phase]
    rfl
  have top : (moment rejoining [0x1001, 0x1000] 2).stack = [0x1000] := by
    rw [second, State.after_stack, first]
    rfl
  have held : (moment rejoining [0x1001, 0x1000] 2).cursors = #[rejoiningCursor 2] := by
    rw [second, State.after_cursors, first]
    rfl
  have here : rejoining.space.resolve (normalize rejoining 0x1000) = some ⟨0, 0⟩ := rfl
  have third : moment rejoining [0x1001, 0x1000] 3 = _ := (moment_succ ..).trans
    (State.step_of_start rejoining choosing rfl top fresh here (by rw [held]; rfl) rfl)
  have passes : (moment rejoining [0x1001, 0x1000] 3).call? rejoining = some ⟨0, 0x1000, rejoiningCursor 0⟩ := by
    rw [third]
    refine (State.call_eq_some rejoining).mpr ⟨(State.ahead_eq_some rejoining).mpr ⟨rfl, ?_, rfl⟩, rfl, rfl, fresh⟩
    rw [held]
    rfl
  have fourth := (moment_succ rejoining [0x1001, 0x1000] 3).trans (State.step_of_call rejoining passes)
  refine ⟨?_, ?_⟩
  · rw [fourth, State.after_ahead rejoining passes]
    rfl
  · rw [fourth, State.after_totals, third, second]
    decide

/-- A budget of two instructions is exhausted, although there are only two. -/
theorem exhausted_without_cut :
    Nonempty rejoining.decoder.Lawful ∧ (∀ clock, rejoining.control.cancelled clock = false) ∧
    ¬ ((traverse (rejoining.limited 2) [0x1001, 0x1000]).outcome = .budgetExhausted ↔
      2 < (traverse rejoining.unlimited [0x1001, 0x1000]).trace.length) := by
  refine ⟨⟨X86.lawful .bits64⟩, fun _ => rfl, ?_⟩
  intro just_if_cut
  have exhausted := (exhausted_iff_spent rejoining [0x1001, 0x1000] rfl fun _ => rfl).mpr ⟨4, rejoining_spent⟩
  exact absurd (just_if_cut.mp exhausted) (Nat.not_lt_of_le rejoining_decoded)

theorem rejoining_within_three :
    (∀ clock, rejoining.control.cancelled clock = false) ∧
    traverse (rejoining.limited 3) [0x1001, 0x1000] = traverse rejoining.unlimited [0x1001, 0x1000] := by
  obtain ⟨exhausted, whole, _⟩ := exhausted_iff_cut_or_rejoins rejoining (fun _ => rfl) [0x1001, 0x1000] 3
  have few := rejoining_decoded
  have enough : (traverse (rejoining.limited 3) [0x1001, 0x1000]).outcome ≠ .budgetExhausted := by
    intro stopped
    rcases exhausted.mp stopped with cut | ⟨equal, _⟩
    · omega
    · omega
  exact ⟨fun _ => rfl, (whole enough).1⟩

end Traversal

end IsaCensus
