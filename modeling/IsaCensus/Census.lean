import IsaCensus.Container.Code
import IsaCensus.Seed.Sources
import IsaCensus.Traversal
import IsaCensus.Report
import IsaCensus.Decode.X86

/-! Taking the census of a container: its regions are read, its seeds are collected, and
everything that the seeds reach is decoded. Code that no decoder understands is surveyed:
the report then shows regions and seeds only. One log goes through all of it. How a container is
taken apart and which engine knows its instructions is left open here. -/

namespace IsaCensus

/-- A report with the run behind it. -/
structure Census (φ : Type) where
  report : Report
  run : Traversal φ
deriving DecidableEq, Repr

namespace Layout

def setting {κ φ : Type} (layout : Layout) (decoder : Decoder κ φ) (config : Config) (control : Control)
    (regions : List Region) (log : IssueLog) : Setting κ φ :=
  let space : Space := ⟨layout.domain, regions⟩
  { decoder
    space
    sampled := space.extent
    budget := config.maxInstructions.map UInt64.toNat
    reportEvery := config.yieldInterval.toNat
    control
    log }

def sample {κ φ : Type} [DecidableEq φ] (layout : Layout) (decoder : Decoder κ φ) (name : φ → String)
    (config : Config) (control : Control) (source : Source) : Census φ × Source :=
  let log : IssueLog := { cap := config.maxIssues.toNat }
  let (regions, log, source) := layout.resolve config log source
  let (seeds, log, source) := layout.collect config regions log source
  let run := traverse (layout.setting decoder config control regions log) seeds.addresses
  let draft : Report.Draft := {}
  let draft := draft.setFormat layout.format
  let draft := draft.setArchitecture layout.architecture
  let draft := draft.setBitness layout.bitness
  let draft := draft.setRegions regions
  let draft := draft.addTraversal name run.totals run.outcome
  let draft := draft.setSeeds seeds.summary
  let draft := draft.setIssues run.log
  ({ report := draft.build, run }, source)

/-- The report on a container whose code cannot be decoded. The reason is the first thing in its log. -/
def survey (layout : Layout) (config : Config) (reason : Fault) (source : Source) : Report × Source :=
  let log : IssueLog := { cap := config.maxIssues.toNat }
  let log := log.push ⟨.unsupportedArchitecture, reason.message⟩
  let (regions, log, source) := layout.resolve config log source
  let (seeds, log, source) := layout.collect config regions log source
  let draft : Report.Draft := {}
  let draft := draft.setFormat layout.format
  let draft := draft.setArchitecture layout.architecture
  let draft := draft.setBitness layout.bitness
  let draft := draft.setRegions regions
  let draft := draft.setSeeds seeds.summary
  let draft := draft.setIssues log
  (draft.build, source)

variable {φ : Type} [DecidableEq φ]

/-- The census with the decoder that fits the container, or a survey if there is none. -/
def analyze (layout : Layout) (engine : X86.Engine φ) (config : Config) (control : Control) (source : Source) :
    (Report × List Snapshot) × Source :=
  match X86.modeFor layout with
  | .ok mode =>
    let (census, source) := layout.sample (engine.decoder mode) engine.name config control source
    ((census.report, census.run.progress), source)
  | .error reason =>
    let (report, source) := layout.survey config reason source
    ((report, []), source)

end Layout

variable {φ : Type} [DecidableEq φ] (parse : Bytes → Except Fault Layout) (engine : X86.Engine φ)

def analyzeBytes (image : Bytes) (config : Config) (control : Control) : Except Fault (Report × List Snapshot) := do
  let layout ← parse image
  return (layout.analyze engine config control (Source.memory image)).1

/-- The census of a file, which is read under the limits of the configuration. -/
def analyzeFile (image : Bytes) (config : Config) (control : Control) : Except Fault (Report × List Snapshot) := do
  match Source.openFile config.io image with
  | .error fault => throw (.io fault)
  | .ok source =>
    let layout ← parse image
    return (layout.analyze engine config control source).1

end IsaCensus
