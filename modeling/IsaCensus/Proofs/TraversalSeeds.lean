import Mathlib.Algebra.Order.BigOperators.Group.List
import Mathlib.Algebra.Order.Ring.Nat
import Mathlib.Data.List.Perm.Subperm
import IsaCensus.Proofs.TraversalCounts
import IsaCensus.Proofs.TraversalReach

/-! Seeds as a set. The order of the seeds decides in which order code is decoded, and which of
it is found by running on and which from the stack. It does not decide what is counted in the
end: that only depends on the addresses that the seeds come to, and grows with them. -/

namespace IsaCensus

variable {κ φ : Type}

theorem Decoder.Lawful.Reached.mono {decoder : Decoder κ φ} {lawful : decoder.Lawful} {space : Space}
    {fewer more : List UInt64}
    (covered : ∀ seed ∈ fewer, space.domain.normalize seed ∈ more.map space.domain.normalize)
    {address : UInt64} (reached : lawful.Reached space fewer address) : lawful.Reached space more address := by
  induction reached with
  | seed member inside =>
    obtain ⟨other, present, same⟩ := List.mem_map.mp (covered _ member)
    rw [← same]
    apply Reached.seed present
    rw [← Space.contains_normalize, same, Space.contains_normalize]
    exact inside
  | edge _ edge ih => exact .edge ih edge

namespace Tally

variable [DecidableEq φ]

/-- Tallies that count alike are one tally, up to the order in which features were first seen. -/
theorem Proper.perm {first second : Tally φ} (one : first.Proper) (other : second.Proper)
    (alike : ∀ feature, first.count feature = second.count feature) : first.Perm second := by
  apply (List.perm_ext_iff_of_nodup one.distinct.of_map other.distinct.of_map).mpr
  rintro ⟨feature, n⟩
  rw [one.mem_iff, other.mem_iff, alike]

end Tally

namespace Totals

variable [DecidableEq φ]

/-- No count is above the other one. -/
structure AtMost (fewer more : Totals φ) : Prop where
  bytesDecoded : fewer.bytesDecoded ≤ more.bytesDecoded
  instructions : fewer.instructions ≤ more.instructions
  invalid : fewer.invalid ≤ more.invalid
  features : ∀ feature, fewer.features.count feature ≤ more.features.count feature

theorem over_atMost (sampled : Nat) {fewer more : List (Visit φ)}
    (part : (fewer.map Visit.instruction).Subperm (more.map Visit.instruction)) :
    (Totals.over sampled fewer).AtMost (Totals.over sampled more) := by
  obtain ⟨same, perm, sublist⟩ := part
  refine ⟨?_, ?_, ?_, ?_⟩
  · have lengths : ((fewer.map Visit.instruction).map Instruction.length).sum ≤
        ((more.map Visit.instruction).map Instruction.length).sum := by
      rw [← (perm.map Instruction.length).sum_eq]
      exact (sublist.map Instruction.length).sum_le_sum fun _ _ => Nat.zero_le _
    rw [over_bytes, over_bytes]
    omega
  · have length := sublist.length_le
    rw [perm.length_eq, List.length_map, List.length_map] at length
    rw [over_instructions, over_instructions]
    exact length
  · rw [over_invalid, over_invalid, ← perm.countP_eq]
    exact sublist.countP_le
  · intro feature
    rw [over_count, over_count, ← (perm.flatMap_right Instruction.counted).count_eq]
    exact (sublist.flatMap Instruction.counted).count_le feature

end Totals

namespace Traversal

variable {setting : Setting κ φ}

theorem State.Complete.visits {lawful : setting.decoder.Lawful} {seeds : List UInt64} {state : State κ φ}
    (complete : state.Complete lawful seeds) (choosing : state.phase = .choosing) (empty : state.stack = [])
    {address : UInt64} (reached : lawful.Reached setting.space seeds address) : address ∈ state.visited := by
  have visited {address : UInt64} (known : state.Known setting address) : address ∈ state.visited := by
    rcases known with visited | ⟨waiting, member, _⟩ | ⟨region, following⟩
    · exact visited
    · rw [empty] at member
      cases member
    · cases choosing.symm.trans following
  induction reached with
  | seed member inside => exact visited (complete.queued _ (complete.seeded _ member) inside)
  | edge _ edge ih => exact visited (complete.closed _ ih _ edge)

variable [DecidableEq φ]

/-- What is decoded is reachable, and is what the decoder reads where it resolves to. -/
theorem decoded_reached (lawful : setting.decoder.Lawful) (fits : setting.space.Fits) (seeds : List UInt64) :
    ∀ visit ∈ (traverse setting seeds).trace,
      lawful.Reached setting.space seeds visit.instruction.address ∧
      lawful.instructionAt? setting.space visit.instruction.address = some visit.instruction := by
  intro visit member
  rw [trace_calls] at member
  obtain ⟨call, asked, rfl⟩ := List.mem_map.mp member
  obtain ⟨time, called⟩ := called_of_mem setting asked
  have inPlace := (placed_moment lawful.toTracked fits seeds time).call called
  have address : (call.visit setting).instruction.address = call.address := inPlace.instruction_address
  rw [address]
  exact ⟨(reachable_moment lawful fits seeds time).followed (State.call_following setting called), inPlace.read⟩

theorem reached_decoded (lawful : setting.decoder.Lawful) (fits : setting.space.Fits)
    (unlimited : setting.budget = none) (undisturbed : ∀ clock, setting.control.cancelled clock = false)
    {seeds : List UInt64} {address : UInt64} (reached : lawful.Reached setting.space seeds address) :
    ∃ visit ∈ (traverse setting seeds).trace, visit.instruction.address = address := by
  obtain ⟨last, _, halt, trace, _⟩ := halts setting seeds
  obtain ⟨choosing, empty⟩ := halt.drained setting unlimited undisturbed
  have complete := complete_moment lawful fits unlimited undisturbed seeds last
  obtain ⟨visit, member, same⟩ :=
    (placed_moment lawful.toTracked fits seeds last).logged.mp (complete.visits choosing empty reached)
  exact ⟨visit, by rw [trace]; exact Array.mem_toList_iff.mpr member, same⟩

theorem trace_distinct (lawful : setting.decoder.Lawful) (fits : setting.space.Fits) (seeds : List UInt64) :
    ((traverse setting seeds).trace.map Visit.instruction).Nodup := by
  have distinct := (placed_moment lawful.toTracked fits seeds (steps setting seeds)).distinct
  apply List.Nodup.of_map Instruction.address
  rw [List.map_map]
  exact distinct

/-- The instructions of a free traversal are among those of one that has these seeds and more. -/
theorem trace_mono (lawful : setting.decoder.Lawful) (fits : setting.space.Fits)
    (unlimited : setting.budget = none) (undisturbed : ∀ clock, setting.control.cancelled clock = false)
    {fewer more : List UInt64}
    (covered : ∀ seed ∈ fewer, normalize setting seed ∈ more.map (normalize setting)) :
    ((traverse setting fewer).trace.map Visit.instruction).Subperm
      ((traverse setting more).trace.map Visit.instruction) := by
  apply (trace_distinct lawful fits fewer).subperm
  intro instruction member
  obtain ⟨visit, present, rfl⟩ := List.mem_map.mp member
  obtain ⟨reached, read⟩ := decoded_reached lawful fits fewer visit present
  obtain ⟨other, found, same⟩ := reached_decoded lawful fits unlimited undisturbed (reached.mono covered)
  -- Both traversals read the same instruction at this address.
  have again := (decoded_reached lawful fits more other found).2
  rw [same, read, Option.some_inj] at again
  exact List.mem_map.mpr ⟨other, found, again.symm⟩

/-- A free traversal decodes and counts no less if it has more seeds, and the same if its seeds
come to the same addresses, in whatever order, however often and by whatever aliases. -/
theorem counts_grow_with_seeds (lawful : setting.decoder.Lawful) (fits : setting.space.Fits)
    (unlimited : setting.budget = none) (undisturbed : ∀ clock, setting.control.cancelled clock = false)
    {fewer more : List UInt64}
    (covered : ∀ seed ∈ fewer, normalize setting seed ∈ more.map (normalize setting)) :
    ((traverse setting fewer).trace.map fun visit => visit.instruction.address) ⊆
      ((traverse setting more).trace.map fun visit => visit.instruction.address) ∧
    (traverse setting fewer).totals.AtMost (traverse setting more).totals ∧
    ((∀ seed ∈ more, normalize setting seed ∈ fewer.map (normalize setting)) →
      (traverse setting fewer).totals.bytesDecoded = (traverse setting more).totals.bytesDecoded ∧
      (traverse setting fewer).totals.instructions = (traverse setting more).totals.instructions ∧
      (traverse setting fewer).totals.invalid = (traverse setting more).totals.invalid ∧
      (traverse setting fewer).outcome = (traverse setting more).outcome ∧
      (traverse setting fewer).totals.features.Perm (traverse setting more).totals.features) := by
  have part := trace_mono lawful fits unlimited undisturbed covered
  have less : (traverse setting fewer).totals.AtMost (traverse setting more).totals := by
    rw [traverse_totals, traverse_totals]
    exact Totals.over_atMost setting.sampled part
  refine ⟨?_, less, ?_⟩
  · have addresses := List.map_subset Instruction.address part.subset
    rw [List.map_map, List.map_map] at addresses
    exact addresses
  · intro back
    have greater : (traverse setting more).totals.AtMost (traverse setting fewer).totals := by
      rw [traverse_totals, traverse_totals]
      exact Totals.over_atMost setting.sampled (trace_mono lawful fits unlimited undisturbed back)
    refine ⟨Nat.le_antisymm less.bytesDecoded greater.bytesDecoded,
      Nat.le_antisymm less.instructions greater.instructions, Nat.le_antisymm less.invalid greater.invalid, ?_, ?_⟩
    · rw [completes setting unlimited undisturbed, completes setting unlimited undisturbed]
    · apply Tally.Proper.perm
      · rw [traverse_totals]
        exact Totals.over_proper ..
      · rw [traverse_totals]
        exact Totals.over_proper ..
      · exact fun feature => Nat.le_antisymm (less.features feature) (greater.features feature)

theorem aliases_counted_alike :
    overlapping.space.Fits ∧ overlapping.budget = none ∧ (∀ clock, overlapping.control.cancelled clock = false) ∧
    (∀ seed ∈ [0x100001003, 0x1000, 0x1003],
      normalize overlapping seed ∈ [0x1000, 0x1003].map (normalize overlapping)) ∧
    (traverse overlapping [0x100001003, 0x1000, 0x1003]).totals.features.Perm
      (traverse overlapping [0x1000, 0x1003]).totals.features := by
  have fits : overlapping.space.Fits := by decide
  have covered : ∀ seed ∈ [0x100001003, 0x1000, 0x1003],
      normalize overlapping seed ∈ [0x1000, 0x1003].map (normalize overlapping) := by
    simp only [List.forall_mem_cons, List.not_mem_nil, false_implies, implies_true, and_true]
    decide
  obtain ⟨_, _, alike⟩ := @counts_grow_with_seeds _ _ overlapping _ (X86.lawful .bits64) fits rfl (fun _ => rfl)
    [0x100001003, 0x1000, 0x1003] [0x1000, 0x1003] covered
  have back : ∀ seed ∈ [0x1000, 0x1003],
      normalize overlapping seed ∈ [0x100001003, 0x1000, 0x1003].map (normalize overlapping) := by
    simp only [List.forall_mem_cons, List.not_mem_nil, false_implies, implies_true, and_true]
    decide
  obtain ⟨_, _, _, _, features⟩ := alike back
  exact ⟨fits, rfl, fun _ => rfl, covered, features⟩

end Traversal

end IsaCensus
