import Mathlib.Algebra.GroupWithZero.Nat
import IsaCensus.Decode.X86.Table
import IsaCensus.Proofs.IssueCaps

/-! What was sampled, apart from what was decoded of it. A report names the container, its regions
and the seeds in them whichever decoder runs over them, under whatever limits, and for however long.
Where there is no decoder, that and the reason is all it says. -/

namespace IsaCensus

/-- The part of a report that is settled before anything is decoded. -/
structure Sampling where
  format : Option Format
  architecture : Option Architecture
  bitness : Nat
  regions : List RegionSummary
  bytesSampled : Nat
  seeds : SeedSummary
deriving DecidableEq, Repr

namespace Report

def sampling (report : Report) : Sampling where
  format := report.format
  architecture := report.architecture
  bitness := report.bitness
  regions := report.regions
  bytesSampled := report.bytesSampled
  seeds := report.seeds

/-- What a draft comes to, but for what was decoded. -/
theorem Draft.sampling_build (draft : Draft) : draft.build.sampling =
    { format := draft.format
      architecture := draft.architecture
      bitness := draft.bitness
      regions := draft.regions
      bytesSampled := (draft.regions.map RegionSummary.length).sum
      seeds := draft.seeds } := by
  rw [List.sum_eq_foldr, List.foldr_map]
  rfl

/-- The report on code that was not decoded. It was looked at in full, and the reason comes before all
other issues, if there is room for any. -/
structure Undecoded (report : Report) (cap : UInt64) (reason : Fault) : Prop where
  bytesDecoded : report.bytesDecoded = 0
  instructions : report.instructions = 0
  invalid : report.invalid = 0
  features : report.features = []
  outcome : report.outcome = .completed
  told : 0 < cap → report.issues.head? = some ⟨.unsupportedArchitecture, reason.message⟩

end Report

namespace Layout

/-- What there is to sample in a layout, and what is left of its source then. It is found with a log
that keeps nothing. -/
def sampling (layout : Layout) (config : Config) (source : Source) : Sampling × Source :=
  let (regions, log, source) := layout.resolve config { cap := 0 } source
  let (seeds, _, source) := layout.collect config regions log source
  let summaries := regions.map Region.summary
  ({ format := some layout.format
     architecture := some layout.architecture
     bitness := layout.bitness
     regions := summaries
     bytesSampled := (summaries.map RegionSummary.length).sum
     seeds := seeds.summary }, source)

theorem sampling_eq (layout : Layout) (config : Config) (source : Source) :
    let ground := (layout.groundwork config source).1
    let summaries := ground.regions.map Region.summary
    layout.sampling config source =
      ({ format := some layout.format
         architecture := some layout.architecture
         bitness := layout.bitness
         regions := summaries
         bytesSampled := (summaries.map RegionSummary.length).sum
         seeds := ground.seeds.summary }, (layout.groundwork config source).2) := by
  simp only [sampling, resolve_eq, collect_eq, groundwork]

/-- What limits the decoding and the issues shown does not limit the sampling. -/
theorem sampling_limited (layout : Layout) (config : Config) (maxIssues yieldInterval : UInt64)
    (maxInstructions : Option UInt64) (source : Source) :
    layout.sampling { config with maxIssues, yieldInterval, maxInstructions } source =
      layout.sampling config source := rfl

theorem sample_sampling {κ φ : Type} [DecidableEq φ] (layout : Layout) (decoder : Decoder κ φ)
    (name : φ → String) (config : Config) (control : Control) (source : Source) :
    ∃ census, layout.sample decoder name config control source = (census, (layout.sampling config source).2) ∧
      census.report.sampling = (layout.sampling config source).1 := by
  rw [sampling_eq, sample_eq]
  exact ⟨_, rfl, Report.Draft.sampling_build _⟩

/-- A survey looks at the same things, though there is an issue in its log before it begins. -/
theorem survey_sampling (layout : Layout) (config : Config) (reason : Fault) (source : Source) :
    ∃ report, layout.survey config reason source = (report, (layout.sampling config source).2) ∧
      report.sampling = (layout.sampling config source).1 ∧ report.Undecoded config.maxIssues reason := by
  have issues := layout.survey_issues config source reason
  rw [survey_eq] at issues
  rw [sampling_eq, survey_eq]
  refine ⟨_, rfl, Report.Draft.sampling_build _, Nat.zero_min _, rfl, rfl, rfl, rfl, fun room => ?_⟩
  rw [issues, Issue.head?_cut (UInt64.lt_iff_toNat_lt.mp room), List.head?_cons]

theorem analyze_sampling {φ : Type} [DecidableEq φ] (layout : Layout) (engine : X86.Engine φ) (config : Config)
    (control : Control) (source : Source) :
    ∃ report progress,
      layout.analyze engine config control source = ((report, progress), (layout.sampling config source).2) ∧
      report.sampling = (layout.sampling config source).1 ∧
      ∀ reason, X86.modeFor layout = .error reason → report.Undecoded config.maxIssues reason := by
  unfold analyze
  cases X86.modeFor layout with
  | ok mode =>
    obtain ⟨census, sampled, same⟩ :=
      layout.sample_sampling (engine.decoder mode) engine.name config control source
    exact ⟨census.report, census.run.progress, by simp only [sampled], same, nofun⟩
  | error reason =>
    obtain ⟨report, surveyed, same, undecoded⟩ := layout.survey_sampling config reason source
    refine ⟨report, [], by simp only [surveyed], same, ?_⟩
    rintro _ ⟨⟩
    exact undecoded

/-- What is sampled does not depend on how it is decoded. The reports of all decoders agree on it, under
every control and with any number of issues and instructions, and they leave one and the same source
behind. So does the report on a container without a decoder, in which nothing is counted. -/
theorem sampling_independent_of_decoding (layout : Layout) (config : Config) (source : Source) :
    ∃ (sampling : Sampling) (rest : Source), layout.sampling config source = (sampling, rest) ∧
      sampling.bytesSampled = (sampling.regions.map RegionSummary.length).sum ∧
      ∀ (maxIssues yieldInterval : UInt64) (maxInstructions : Option UInt64) (control : Control),
        let limited : Config := { config with maxIssues, yieldInterval, maxInstructions }
        (∀ {κ φ : Type} [DecidableEq φ] (decoder : Decoder κ φ) (name : φ → String), ∃ census,
          layout.sample decoder name limited control source = (census, rest) ∧ census.report.sampling = sampling) ∧
        (∀ reason, ∃ report, layout.survey limited reason source = (report, rest) ∧ report.sampling = sampling ∧
          report.Undecoded maxIssues reason) ∧
        ∀ {φ : Type} [DecidableEq φ] (engine : X86.Engine φ), ∃ report progress,
          layout.analyze engine limited control source = ((report, progress), rest) ∧ report.sampling = sampling ∧
          ∀ reason, X86.modeFor layout = .error reason → report.Undecoded maxIssues reason := by
  refine ⟨(layout.sampling config source).1, (layout.sampling config source).2, rfl, rfl, ?_⟩
  intro maxIssues yieldInterval maxInstructions control limited
  rw [← layout.sampling_limited config maxIssues yieldInterval maxInstructions source]
  exact ⟨fun decoder name => layout.sample_sampling decoder name limited control source,
    fun reason => layout.survey_sampling limited reason source,
    fun engine => layout.analyze_sampling engine limited control source⟩

/-- Code of another processor, of which four bytes of eight are there. -/
def foreign : Layout where
  format := .elf
  architecture := .aarch64
  sections := [{ label := ".text", base := 0x1000, fileOffset := some 0, length := 8, permissions.execute := true }]

theorem foreign_sampled :
    X86.modeFor foreign = .error (.unsupportedArchitecture "aarch64") ∧ (0 : UInt64) < 1 ∧
    ∃ report progress rest,
      foreign.analyze X86.tables { maxIssues := 1 } {} (Source.memory #[0x1f, 0x20, 0x03, 0xd5]) =
        ((report, progress), rest) ∧
      report.regions = [⟨".text", 0x1000, 4⟩] ∧ report.bytesSampled = 4 ∧ report.instructions = 0 ∧
      report.issues.head? = some ⟨.unsupportedArchitecture, "Unsupported architecture: aarch64"⟩ := by
  have reason : X86.modeFor foreign = .error (.unsupportedArchitecture "aarch64") := rfl
  obtain ⟨sampling, rest, sampled, total, agree⟩ :=
    sampling_independent_of_decoding foreign {} (Source.memory #[0x1f, 0x20, 0x03, 0xd5])
  obtain ⟨_, _, analyses⟩ := agree 1 4096 none {}
  obtain ⟨report, progress, analyzed, same, undecoded⟩ := analyses X86.tables
  have regions : sampling.regions = [⟨".text", 0x1000, 4⟩] := by
    rw [← show _ = sampling from congrArg Prod.fst sampled]
    decide +kernel
  rw [regions] at total
  subst same
  exact ⟨reason, by decide, report, progress, rest, analyzed, regions, total, (undecoded _ reason).instructions,
    (undecoded _ reason).told (by decide)⟩

end Layout

end IsaCensus
