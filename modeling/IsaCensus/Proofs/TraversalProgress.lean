import IsaCensus.Decode.Scripted
import IsaCensus.Proofs.TraversalBudgets

/-! What an observer is shown. A snapshot is taken when an instruction has been counted but not
yet accounted for: its bytes and its defect are missing. So a snapshot tells of one instruction
more than its other counts do, except where that instruction adds nothing to them. -/

namespace IsaCensus

variable {κ φ : Type} [DecidableEq φ] (setting : Setting κ φ)

/-- The snapshots that are shown in the course of these visits. -/
def Setting.shown (visits : List (Visit φ)) : List Snapshot :=
  if setting.control.observed ∧ 0 < setting.reportEvery then
    (List.range (visits.length / setting.reportEvery)).map fun place =>
      (Totals.over setting.sampled (visits.take ((place + 1) * setting.reportEvery - 1))).countOne.snapshot
  else []

theorem Setting.shown_concat (visits : List (Visit φ)) (visit : Visit φ) :
    setting.shown (visits ++ [visit]) = setting.shown visits ++
      if setting.control.observed = true ∧ 0 < setting.reportEvery ∧
          (visits.length + 1) % setting.reportEvery = 0 then
        [(Totals.over setting.sampled visits).countOne.snapshot]
      else [] := by
  unfold shown
  by_cases watched : setting.control.observed = true ∧ 0 < setting.reportEvery
  · obtain ⟨observed, spaced⟩ := watched
    have kept : ∀ place ∈ List.range (visits.length / setting.reportEvery),
        (visits ++ [visit]).take ((place + 1) * setting.reportEvery - 1) =
          visits.take ((place + 1) * setting.reportEvery - 1) := by
      intro place member
      have whole : (place + 1) * setting.reportEvery ≤ visits.length :=
        (Nat.le_div_iff_mul_le spaced).mp (List.mem_range.mp member)
      exact List.take_append_of_le_length (by omega)
    have before : ((List.range (visits.length / setting.reportEvery)).map fun place =>
          (Totals.over setting.sampled
            ((visits ++ [visit]).take ((place + 1) * setting.reportEvery - 1))).countOne.snapshot) =
        (List.range (visits.length / setting.reportEvery)).map fun place =>
          (Totals.over setting.sampled (visits.take ((place + 1) * setting.reportEvery - 1))).countOne.snapshot :=
      List.map_congr_left fun place member => by rw [kept place member]
    simp only [observed, spaced, and_self, true_and, if_true, List.length_append, List.length_singleton]
    by_cases due : (visits.length + 1) % setting.reportEvery = 0
    · have whole : (visits.length / setting.reportEvery + 1) * setting.reportEvery = visits.length + 1 := by
        rw [← Nat.succ_div_of_dvd (Nat.dvd_of_mod_eq_zero due)]
        exact Nat.div_mul_cancel (Nat.dvd_of_mod_eq_zero due)
      rw [if_pos due, Nat.succ_div_of_dvd (Nat.dvd_of_mod_eq_zero due), List.range_succ, List.map_append, before,
        List.map_singleton, whole, Nat.add_sub_cancel, List.take_left]
    · rw [if_neg due, Nat.succ_div_of_not_dvd fun whole => due (Nat.mod_eq_zero_of_dvd whole), before,
        List.append_nil]
  · have silent : ¬ (setting.control.observed = true ∧ 0 < setting.reportEvery ∧
        (visits.length + 1) % setting.reportEvery = 0) := fun due => watched ⟨due.1, due.2.1⟩
    rw [if_neg watched, if_neg watched, if_neg silent]
    rfl

/-- When a snapshot tells the same as the totals behind its last instruction. -/
theorem Totals.snapshot_concat (sampled : Nat) (visits : List (Visit φ)) (visit : Visit φ) :
    (Totals.over sampled visits).countOne.snapshot = (Totals.over sampled (visits ++ [visit])).snapshot ↔
      ¬ visit.instruction.Invalid ∧ sampled ≤ ((visits.map Visit.instruction).map Instruction.length).sum := by
  rw [over_concat]
  simp only [snapshot, account, countOne, Snapshot.mk.injEq, true_and, over_bytes, Instruction.defect_isSome]
  by_cases invalid : visit.instruction.Invalid
  · simp only [invalid, if_true, not_true, false_and, iff_false]
    omega
  · have long : visit.instruction.length ≠ 0 := fun short => invalid (.inl short)
    simp only [invalid, if_false, not_false_eq_true, true_and, Nat.add_zero, and_true]
    omega

namespace Traversal

theorem moment_progress (seeds : List UInt64) (time : Nat) :
    (moment setting seeds time).progress.toList = setting.shown (moment setting seeds time).trace.toList := by
  induction time with
  | zero =>
    unfold Setting.shown
    split
    · simp [moment, State.run, State.initial]
    · rfl
  | succ time ih =>
    have totals := moment_totals setting seeds time
    have counted := moment_counted setting seeds time
    have move := State.step_move setting (moment setting seeds time)
    rw [moment_succ]
    generalize (moment setting seeds time).step setting = next at move ⊢
    cases move with
    | rest | cancel | complete | skip | miss | lack | start | leave | exhaust | join => exact ih
    | decode =>
      rw [State.after_progress, State.after_trace, Array.toList_push, Setting.shown_concat, ← ih, ← totals,
        Array.length_toList, ← counted]
      split
      · rw [Array.toList_push]
      · rw [List.append_nil]

theorem traverse_progress (seeds : List UInt64) :
    (traverse setting seeds).progress = setting.shown (traverse setting seeds).trace :=
  moment_progress setting seeds _

section Observed
variable (observed : setting.control.observed = true) (spaced : 0 < setting.reportEvery) (seeds : List UInt64)
include observed spaced

theorem progress_length :
    (traverse setting seeds).progress.length = (traverse setting seeds).trace.length / setting.reportEvery := by
  rw [traverse_progress, Setting.shown, if_pos ⟨observed, spaced⟩, List.length_map, List.length_range]

theorem progress_at {place : Nat} (inside : place < (traverse setting seeds).trace.length / setting.reportEvery) :
    (traverse setting seeds).progress[place]? = some (Totals.over setting.sampled
      ((traverse setting seeds).trace.take ((place + 1) * setting.reportEvery - 1))).countOne.snapshot := by
  rw [traverse_progress, Setting.shown, if_pos ⟨observed, spaced⟩, List.getElem?_map, List.getElem?_range inside]
  rfl

end Observed

/-- A snapshot agrees with the totals of the traversal that is limited to the instructions it
counts just if the last of these is sound and comes after all bytes were accounted for. What it
shows is the number of these instructions, beside the bytes and defects of all but the last. -/
theorem snapshot_agrees_iff (observed : setting.control.observed = true) (spaced : 0 < setting.reportEvery)
    (seeds : List UInt64) :
    (traverse setting seeds).progress.length = (traverse setting seeds).trace.length / setting.reportEvery ∧
    ∀ place count, place < (traverse setting seeds).progress.length → count = (place + 1) * setting.reportEvery →
      (traverse (setting.limited count) seeds).totals =
        .over setting.sampled ((traverse setting seeds).trace.take count) ∧
      (traverse setting seeds).progress[place]? = some
        { bytesDecoded := (Totals.over setting.sampled ((traverse setting seeds).trace.take (count - 1))).bytesDecoded
          instructions := count
          invalid := (Totals.over setting.sampled ((traverse setting seeds).trace.take (count - 1))).invalid } ∧
      ∃ visit, (traverse setting seeds).trace[count - 1]? = some visit ∧
        ((traverse setting seeds).progress[place]? = some (traverse (setting.limited count) seeds).totals.snapshot ↔
          ¬ visit.instruction.Invalid ∧ setting.sampled ≤
            ((((traverse setting seeds).trace.take (count - 1)).map Visit.instruction).map Instruction.length).sum) := by
  have length := progress_length setting observed spaced seeds
  refine ⟨length, ?_⟩
  rintro place count inside rfl
  rw [length] at inside
  have reached : (place + 1) * setting.reportEvery ≤ (traverse setting seeds).trace.length :=
    (Nat.le_div_iff_mul_le spaced).mp inside
  have positive : 0 < (place + 1) * setting.reportEvery := Nat.mul_pos (Nat.succ_pos place) spaced
  rw [progress_at setting observed spaced seeds inside]
  generalize (place + 1) * setting.reportEvery = count at reached positive
  have totals := totals_limited setting seeds fun limit limited =>
    Nat.le_trans reached (trace_within setting seeds limited)
  have last : count - 1 < (traverse setting seeds).trace.length := by omega
  have split : (traverse setting seeds).trace.take count =
      (traverse setting seeds).trace.take (count - 1) ++ [(traverse setting seeds).trace[count - 1]] := by
    rw [← List.take_succ_eq_append_getElem last, Nat.sub_add_cancel positive]
  refine ⟨totals, ?_, (traverse setting seeds).trace[count - 1], List.getElem?_eq_getElem last, ?_⟩
  · have size : ((traverse setting seeds).trace.take (count - 1)).length + 1 = count := by
      rw [List.length_take]
      omega
    simp only [Totals.snapshot, Totals.countOne, Totals.over_instructions, size]
  · rw [totals, split, Option.some_inj]
    exact Totals.snapshot_concat setting.sampled _ _

/-- A return and nothing else, shown to an observer at every instruction. -/
def lone : Setting Scripted.Cursor UInt8 where
  decoder := Scripted.decoder
  space := { domain := .va64, regions := [{ base := 0x1000, bytes := #[0x02] }] }
  sampled := 1
  reportEvery := 1
  control := { observed := true }

theorem lone_trace : (traverse lone [0x1000]).trace =
    [⟨0x1000, 0, ⟨0x1000, 1, 0x1001, .ret, none, true, [0]⟩⟩] := by
  have first : moment lone [0x1000] 1 = _ := (moment_succ ..).trans
    (State.step_of_start lone rfl rfl rfl Std.HashSet.not_mem_empty rfl rfl rfl)
  have returns : (moment lone [0x1000] 1).call? lone = some ⟨0, 0x1000, { bytes := #[0x02], base := 0x1000 }⟩ := by
    rw [first]
    exact (State.call_eq_some lone).mpr
      ⟨(State.ahead_eq_some lone).mpr ⟨rfl, rfl, rfl⟩, rfl, rfl, Std.HashSet.not_mem_empty⟩
  have second := (moment_succ lone [0x1000] 1).trans (State.step_of_call lone returns)
  have choosing : (moment lone [0x1000] 2).phase = .choosing := by
    rw [second, State.after_phase]
    rfl
  have empty : (moment lone [0x1000] 2).stack = [] := by
    rw [second, State.after_stack, first]
    rfl
  rw [traverse_of_halt lone (.completed choosing rfl empty), second, State.after_trace, first]
  rfl

/-- The only snapshot counts an instruction of which it has no bytes. -/
theorem snapshot_of_two_beginnings :
    lone.control.observed = true ∧ 0 < lone.reportEvery ∧
    (traverse lone [0x1000]).progress = [⟨0, 1, 0⟩] ∧
    (traverse (lone.limited 1) [0x1000]).totals.snapshot = ⟨1, 1, 0⟩ := by
  refine ⟨rfl, Nat.one_pos, ?_, ?_⟩
  · rw [traverse_progress, lone_trace]
    decide
  · rw [totals_limited lone [0x1000] nofun, lone_trace]
    decide

theorem lone_snapshot_agrees_iff :
    lone.control.observed = true ∧ 0 < lone.reportEvery ∧ 0 < (traverse lone [0x1000]).progress.length ∧
    ∃ visit, (traverse lone [0x1000]).trace[0]? = some visit ∧
      ((traverse lone [0x1000]).progress[0]? = some (traverse (lone.limited 1) [0x1000]).totals.snapshot ↔
        ¬ visit.instruction.Invalid ∧ lone.sampled ≤ 0) := by
  obtain ⟨length, agrees⟩ := snapshot_agrees_iff lone rfl Nat.one_pos [0x1000]
  have shown : 0 < (traverse lone [0x1000]).progress.length := by
    rw [length, lone_trace]
    exact Nat.one_pos
  obtain ⟨_, _, visit, last, same⟩ := agrees 0 1 shown rfl
  exact ⟨rfl, Nat.one_pos, shown, visit, last, same⟩

end Traversal

end IsaCensus
