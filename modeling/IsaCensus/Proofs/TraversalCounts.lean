import Mathlib.Algebra.GroupWithZero.Nat
import Mathlib.Data.List.Induction
import IsaCensus.Proofs.ControlFlow
import IsaCensus.Proofs.TraversalIssues

/-! What a traversal counts. The counters are updated at different places of a step, and the
bytes are cut off at every one of them. In the end they are plain sums over the instructions
that the decoder gave out, whatever decoder it is and for whatever reason the traversal stops. -/

namespace IsaCensus

variable {φ : Type}

namespace Instruction

/-- No progress, no instruction, or a fault by design. -/
def Invalid (instruction : Instruction φ) : Prop :=
  instruction.length = 0 ∨ instruction.valid = false ∨ instruction.flow = .exception

instance (instruction : Instruction φ) : Decidable instruction.Invalid :=
  inferInstanceAs (Decidable (_ ∨ _))

theorem defect_isSome {instruction : Instruction φ} : instruction.defect?.isSome = true ↔ instruction.Invalid := by
  rw [Option.isSome_iff_ne_none, ne_eq, defect_eq_none]
  constructor
  · intro unsound
    by_contra clean
    simp only [Invalid, not_or, Bool.not_eq_false] at clean
    exact unsound ⟨clean.1, clean.2.1, clean.2.2⟩
  · rintro invalid ⟨long, valid, passable⟩
    rcases invalid with short | broken | faulting
    · exact long short
    · cases valid.symm.trans broken
    · exact passable faulting

end Instruction

namespace Tally

/-- A tally that has each feature once, and none that was not seen. -/
structure Proper (tally : Tally φ) : Prop where
  distinct : (tally.map Prod.fst).Nodup
  seen : ∀ entry ∈ tally, 0 < entry.2

theorem Proper.nil : Proper ([] : Tally φ) := ⟨List.nodup_nil, fun _ member => absurd member List.not_mem_nil⟩

variable [DecidableEq φ]

theorem count_foldl (tally : Tally φ) (features : List φ) (feature : φ) :
    Tally.count (features.foldl add tally) feature = tally.count feature + features.count feature := by
  induction features generalizing tally with
  | nil => rfl
  | cons first rest ih =>
    rw [List.foldl_cons, ih, count_add, List.count_cons]
    simp only [beq_iff_eq]
    omega

theorem mem_keys_add {tally : Tally φ} {added feature : φ} :
    feature ∈ (tally.add added).map Prod.fst ↔ feature = added ∨ feature ∈ tally.map Prod.fst := by
  induction tally with
  | nil => simp [add]
  | cons entry rest ih =>
    obtain ⟨first, n⟩ := entry
    by_cases same : first = added
    · subst same
      simp [add]
    · simp only [add, same, if_false, List.map_cons, List.mem_cons, ih]
      tauto

theorem Proper.add {tally : Tally φ} (proper : tally.Proper) (feature : φ) : (tally.add feature).Proper := by
  induction tally with
  | nil => exact ⟨List.nodup_singleton _, by simp [Tally.add]⟩
  | cons entry rest ih =>
    obtain ⟨first, n⟩ := entry
    obtain ⟨distinct, seen⟩ := proper
    have fresh := List.nodup_cons.mp distinct
    have later : Proper rest := ⟨fresh.2, fun entry member => seen entry (List.mem_cons_of_mem _ member)⟩
    unfold Tally.add
    split
    next same =>
      refine ⟨distinct, ?_⟩
      intro entry member
      rcases List.mem_cons.mp member with rfl | old
      · exact Nat.succ_pos n
      · exact later.seen entry old
    next other =>
      have tail := ih later
      refine ⟨List.nodup_cons.mpr ⟨?_, tail.distinct⟩, ?_⟩
      · intro present
        rcases mem_keys_add.mp present with same | old
        · exact other same
        · exact fresh.1 old
      · intro entry member
        rcases List.mem_cons.mp member with rfl | old
        · exact seen _ List.mem_cons_self
        · exact tail.seen entry old

theorem Proper.foldl {tally : Tally φ} (proper : tally.Proper) (features : List φ) :
    Proper (features.foldl Tally.add tally) := by
  induction features generalizing tally with
  | nil => exact proper
  | cons first rest ih => exact ih (proper.add first)

theorem Proper.mem_iff {tally : Tally φ} (proper : tally.Proper) {feature : φ} {n : Nat} :
    (feature, n) ∈ tally ↔ 0 < n ∧ tally.count feature = n := by
  induction tally with
  | nil =>
    simp only [List.not_mem_nil, count, false_iff, not_and]
    omega
  | cons entry rest ih =>
    obtain ⟨first, times⟩ := entry
    obtain ⟨distinct, seen⟩ := proper
    have fresh := List.nodup_cons.mp distinct
    have later : Proper rest := ⟨fresh.2, fun entry member => seen entry (List.mem_cons_of_mem _ member)⟩
    rw [List.mem_cons, ih later, Prod.mk.injEq, count]
    by_cases same : first = feature
    · subst same
      have positive := seen _ List.mem_cons_self
      -- The feature is not in the rest, so it is counted here or not at all.
      have absent : ¬ (0 < n ∧ Tally.count rest first = n) := fun found =>
        fresh.1 (List.mem_map.mpr ⟨(first, n), (ih later).mpr found, rfl⟩)
      simp only at positive
      rw [if_pos rfl]
      constructor
      · rintro (⟨_, rfl⟩ | found)
        · exact ⟨positive, rfl⟩
        · exact absurd found absent
      · rintro ⟨_, rfl⟩
        exact .inl ⟨rfl, rfl⟩
    · have other : ¬ feature = first := fun equal => same equal.symm
      simp only [same, other, if_false, false_and, false_or]

end Tally

namespace Totals

variable [DecidableEq φ] (sampled : Nat) (visits : List (Visit φ))

theorem over_concat (visit : Visit φ) :
    Totals.over sampled (visits ++ [visit]) = (Totals.over sampled visits).countOne.account sampled visit.instruction := by
  rw [Totals.over, List.foldl_append]
  rfl

theorem over_instructions : (Totals.over sampled visits).instructions = visits.length := by
  induction visits using List.reverseRecOn with
  | nil => rfl
  | append_singleton visits visit ih =>
    rw [over_concat, List.length_append, ← ih]
    rfl

theorem over_invalid : (Totals.over sampled visits).invalid =
    (visits.map Visit.instruction).countP (fun instruction => instruction.Invalid) := by
  induction visits using List.reverseRecOn with
  | nil => rfl
  | append_singleton visits visit ih =>
    rw [over_concat, List.map_append, List.countP_append, ← ih, List.map_singleton, List.countP_singleton]
    simp only [account, countOne, decide_eq_true_eq, Instruction.defect_isSome]

/-- Cutting off at every step comes to the same as cutting off once. -/
theorem over_bytes : (Totals.over sampled visits).bytesDecoded =
    min sampled ((visits.map Visit.instruction).map Instruction.length).sum := by
  induction visits using List.reverseRecOn with
  | nil => exact (Nat.min_zero _).symm
  | append_singleton visits visit ih =>
    rw [over_concat, List.map_append, List.map_append, List.sum_append_nat, account, countOne, ih]
    simp only [List.map_cons, List.map_nil, List.sum_singleton]
    omega

theorem over_features : (Totals.over sampled visits).features =
    ((visits.map Visit.instruction).flatMap Instruction.counted).foldl Tally.add [] := by
  induction visits using List.reverseRecOn with
  | nil => rfl
  | append_singleton visits visit ih =>
    rw [over_concat, List.map_append, List.flatMap_append, List.foldl_append, ← ih]
    simp only [account, countOne, List.map_singleton, List.flatMap_singleton]

theorem over_count (feature : φ) : (Totals.over sampled visits).features.count feature =
    ((visits.map Visit.instruction).flatMap Instruction.counted).count feature := by
  rw [over_features, Tally.count_foldl]
  exact Nat.zero_add _

theorem over_proper : (Totals.over sampled visits).features.Proper := by
  rw [over_features]
  exact Tally.Proper.nil.foldl _

end Totals

namespace Traversal

variable {κ : Type} [DecidableEq φ] (setting : Setting κ φ) (seeds : List UInt64)

theorem traverse_totals : (traverse setting seeds).totals = .over setting.sampled (traverse setting seeds).trace :=
  moment_totals setting seeds _

end Traversal

end IsaCensus
