import Mathlib.Data.List.Forall2
import IsaCensus.Proofs.FeatureCounts

/-! Reports put together in any way. The setters of a draft can be called in any order and as often
as one likes. What was set last counts, but the features of all the traversals add up; and since only
the totals of the names enter, it does not matter in which order a traversal lists its features. -/

namespace IsaCensus.Report

namespace Draft

/-- One call that changes a draft. -/
inductive Setter : Type 1
  | format (format : Format)
  | architecture (architecture : Architecture)
  | bitness (bitness : Nat)
  | regions (regions : List Region)
  | traversal {φ : Type} (name : φ → String) (totals : Totals φ) (outcome : Outcome)
  | seeds (seeds : SeedSummary)
  | issues (log : IssueLog)

namespace Setter

def apply (draft : Draft) : Setter → Draft
  | .format value => draft.setFormat value
  | .architecture value => draft.setArchitecture value
  | .bitness bits => draft.setBitness bits
  | .regions given => draft.setRegions given
  | .traversal name totals outcome => draft.addTraversal name totals outcome
  | .seeds summary => draft.setSeeds summary
  | .issues log => draft.setIssues log

/-- The features that a traversal counts, by the names under which they are reported. -/
def counts : Setter → List (String × Nat)
  | .traversal name totals _ => totals.features.map fun (feature, n) => (name feature, n)
  | _ => []

def run? : Setter → Option (Snapshot × Outcome)
  | .traversal _ totals outcome => some (totals.snapshot, outcome)
  | _ => none

def lengths? : Setter → Option (List Nat)
  | .regions given => some (given.map Region.length)
  | _ => none

/-- The same call, but for the order in which a traversal lists its features. -/
inductive Reordered : Setter → Setter → Prop
  | same (setter : Setter) : Reordered setter setter
  | traversal {φ : Type} {name : φ → String} {first last : Totals φ} {outcome : Outcome}
      (counters : first.snapshot = last.snapshot) (shuffled : first.features.Perm last.features) :
      Reordered (.traversal name first outcome) (.traversal name last outcome)

end Setter

/-- The report after some calls, beginning with nothing. -/
def assemble (setters : List Setter) : Report := (setters.foldl Setter.apply {}).build

/-- The counters of the last traversal, or zeros if there was none. -/
def lastRun (setters : List Setter) : Snapshot × Outcome :=
  (setters.filterMap Setter.run?).getLastD (⟨0, 0, 0⟩, .completed)

/-- The lengths of the regions that were given last. -/
def lastLengths (setters : List Setter) : List Nat := (setters.filterMap Setter.lengths?).getLastD []

/-- What a report says of the features and the counters that went into it. -/
structure Reports (setters : List Setter) (report : Report) : Prop where
  ordered : report.features.Ordered
  features : ∀ name n, (name, n) ∈ report.features ↔ name ∈ (setters.flatMap Setter.counts).map Prod.fst ∧
    n = FeatureUsage.total (setters.flatMap Setter.counts) name
  instructions : report.instructions = (lastRun setters).1.instructions
  invalid : report.invalid = (lastRun setters).1.invalid
  outcome : report.outcome = (lastRun setters).2
  sampled : report.bytesSampled = (lastLengths setters).sum
  decoded : report.bytesDecoded = min (lastRun setters).1.bytesDecoded (lastLengths setters).sum

def run (draft : Draft) : Snapshot × Outcome :=
  (⟨draft.bytesDecoded, draft.instructions, draft.invalid⟩, draft.outcome)

def lengths (draft : Draft) : List Nat := draft.regions.map RegionSummary.length

theorem apply_run (draft : Draft) (setter : Setter) : (setter.apply draft).run = setter.run?.getD draft.run := by
  cases setter <;> rfl

theorem apply_lengths (draft : Draft) (setter : Setter) :
    (setter.apply draft).lengths = setter.lengths?.getD draft.lengths := by
  cases setter with
  | regions given => exact List.map_map
  | _ => rfl

/-- A field that some setters replace and others leave alone is as the last of them has set it. -/
theorem foldl_replaced {β : Type} {field : Draft → β} {new? : Setter → Option β}
    (replaced : ∀ draft setter, field (Setter.apply draft setter) = (new? setter).getD (field draft))
    (draft : Draft) (setters : List Setter) :
    field (setters.foldl Setter.apply draft) = (setters.filterMap new?).getLastD (field draft) := by
  induction setters generalizing draft with
  | nil => rfl
  | cons setter rest ih =>
    rw [List.foldl_cons, ih, replaced]
    cases new : new? setter with
    | none => rw [List.filterMap_cons_none new, Option.getD_none]
    | some value => rw [List.filterMap_cons_some new, Option.getD_some, List.getLastD_cons]

theorem apply_features (draft : Draft) (setter : Setter) :
    (setter.apply draft).features = draft.features.addAll setter.counts := by
  cases setter with
  | traversal name totals outcome =>
    rw [Setter.counts, FeatureUsage.addAll, List.foldl_map]
    rfl
  | _ => rfl

theorem foldl_features (draft : Draft) (setters : List Setter) :
    (setters.foldl Setter.apply draft).features = draft.features.addAll (setters.flatMap Setter.counts) := by
  induction setters generalizing draft with
  | nil => rfl
  | cons setter rest ih =>
    rw [List.foldl_cons, ih, apply_features, List.flatMap_cons]
    exact List.foldl_append.symm

theorem bytesSampled_eq (draft : Draft) : draft.bytesSampled = draft.lengths.sum := by
  rw [bytesSampled, lengths, List.sum, List.foldr_map]

theorem assemble_reports (setters : List Setter) : Reports setters (assemble setters) := by
  have run := foldl_replaced apply_run {} setters
  have lengths := foldl_replaced apply_lengths {} setters
  have sums : FeatureUsage.Sums (setters.flatMap Setter.counts) (assemble setters).features := by
    rw [assemble, build, foldl_features]
    exact FeatureUsage.Sums.addAll (FeatureUsage.Ordered.sums .nil) (setters.flatMap Setter.counts)
  have sampled : (setters.foldl Setter.apply {}).bytesSampled = (lastLengths setters).sum := by
    rw [bytesSampled_eq, lengths]
    rfl
  constructor
  · exact sums.ordered
  · exact sums.listed
  · exact congrArg (fun run => run.1.instructions) run
  · exact congrArg (fun run => run.1.invalid) run
  · exact congrArg Prod.snd run
  · exact sampled
  · exact congrArg₂ min (congrArg (fun run => run.1.bytesDecoded) run) sampled

theorem apply_reordered {other setter : Setter} (reordered : other.Reordered setter) {draft : Draft}
    (ordered : draft.features.Ordered) : other.apply draft = setter.apply draft := by
  cases reordered with
  | same => rfl
  | @traversal φ name first last outcome counters shuffled =>
    have entries := shuffled.map fun (feature, n) => (name feature, n)
    have features : (Setter.apply draft (.traversal name first outcome)).features =
        (Setter.apply draft (.traversal name last outcome)).features := by
      rw [apply_features, apply_features]
      exact (ordered.sums.addAll _).unique (ordered.sums.addAll _) (entries.append_left draft.features)
    obtain ⟨bytes, instructions, invalid⟩ := Snapshot.mk.inj counters
    simp only [Setter.apply, addTraversal] at features ⊢
    rw [features, bytes, instructions, invalid]

theorem assemble_reordered {others setters : List Setter} (reordered : List.Forall₂ Setter.Reordered others setters) :
    assemble others = assemble setters := by
  have same (draft : Draft) (ordered : draft.features.Ordered) :
      others.foldl Setter.apply draft = setters.foldl Setter.apply draft := by
    induction reordered generalizing draft with
    | nil => rfl
    | @cons other setter _ _ first _ ih =>
      have kept : (setter.apply draft).features.Ordered := by
        rw [apply_features]
        exact (ordered.sums.addAll setter.counts).ordered
      rw [List.foldl_cons, List.foldl_cons, apply_reordered first ordered, ih _ kept]
  rw [assemble, assemble, same {} .nil]

end Draft

/-- A report lists every name that some traversal counted a feature under, and no other name, with the
sum of all these counts; the other counters are those of the last traversal, and no more bytes count as
decoded than the last regions have. The order in which the traversals list their features does not show.
Sorted by count, the features stand in the one order in which each is ahead of all that follow. -/
theorem features_summed_and_ranked (setters : List Draft.Setter) :
    Draft.Reports setters (Draft.assemble setters) ∧
    (∀ others, List.Forall₂ Draft.Setter.Reordered others setters →
      Draft.assemble others = Draft.assemble setters) ∧
    IsStrictTotalOrder (String × Nat) FeatureUsage.Ahead ∧
    ∀ report : Report, report.features.Ordered → FeatureUsage.Ranked report.features report.featuresByCount := by
  refine ⟨Draft.assemble_reports setters, fun _ => Draft.assemble_reordered, inferInstance, ?_⟩
  intro report ordered
  exact FeatureUsage.byCount_ranked ordered.distinct

/-- A run that counts two features under one name, and then one that has names of its own and that
claims to have decoded more than there is in the regions. -/
def twoRuns (features : Tally Bool) : List Draft.Setter :=
  [.traversal (fun _ => "AVX") { instructions := 7, features } .cancelled,
    .bitness 64,
    .traversal id
      { bytesDecoded := 30, instructions := 8, features := [("SSE2", 3), ("AVX", 2), ("AES", 3)] } .completed,
    .regions [{ base := 0x1000, bytes := #[0x90, 0x90] }]]

/-- The counts of one name add up over both runs, and the rest is that of the second one. -/
theorem twoRuns_summed :
    let report := Draft.assemble (twoRuns [(true, 4), (false, 3)])
    report.features = [("AES", 3), ("AVX", 9), ("SSE2", 3)] ∧ report.instructions = 8 ∧
    report.outcome = .completed ∧ report.bytesDecoded = 2 ∧
    Draft.assemble (twoRuns [(false, 3), (true, 4)]) = report ∧
    FeatureUsage.Ranked [("AES", 3), ("AVX", 9), ("SSE2", 3)] report.featuresByCount := by
  intro report
  obtain ⟨reports, same, _, ranked⟩ := features_summed_and_ranked (twoRuns [(true, 4), (false, 3)])
  have features : report.features = [("AES", 3), ("AVX", 9), ("SSE2", 3)] := by decide
  have swapped : List.Forall₂ Draft.Setter.Reordered (twoRuns [(false, 3), (true, 4)])
      (twoRuns [(true, 4), (false, 3)]) :=
    .cons (.traversal rfl (.swap _ _ _)) (.cons (.same _) (.cons (.same _) (.cons (.same _) .nil)))
  have order := ranked report reports.ordered
  rw [features] at order
  exact ⟨features, reports.instructions, reports.outcome, reports.decoded, same _ swapped, order⟩

end IsaCensus.Report
