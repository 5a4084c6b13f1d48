import IsaCensus.Report
import IsaCensus.Json.Value

/-! A report as JSON. -/

namespace IsaCensus

def Issue.toJson (issue : Issue) : Json.Value :=
  .object [("kind", .text issue.kind.name), ("message", .text issue.message)]

def SeedSource.toJson (source : SeedSource) : Json.Value :=
  .object [("name", .text source.name), ("candidates", .number source.candidates),
    ("added", .number source.added), ("skipped_zero", .number source.skippedZero),
    ("skipped_not_executable", .number source.skippedNotExecutable),
    ("skipped_duplicate", .number source.skippedDuplicate)]

def SeedSummary.toJson (summary : SeedSummary) : Json.Value :=
  .object [("sources", .list (summary.sources.map SeedSource.toJson)), ("accepted", .number summary.accepted)]

def RegionSummary.toJson (region : RegionSummary) : Json.Value :=
  .object [("label", .text region.label), ("base_address", .number region.base.toNat),
    ("length", .number region.length)]

namespace Report

def optionalName : Option String → Json.Value
  | some name => .text name
  | none => .null

def toJson (report : Report) : Json.Value :=
  .object [
    ("format", optionalName (report.format.map Format.name)),
    ("architecture", optionalName (report.architecture.map Architecture.name)),
    ("bitness", .number report.bitness),
    ("bytes_sampled", .number report.bytesSampled),
    ("bytes_decoded", .number report.bytesDecoded),
    ("instruction_count", .number report.instructions),
    ("invalid_instruction_count", .number report.invalid),
    ("feature_usage", .object (report.features.map fun (name, count) => (name, .number count))),
    ("issues", .list (report.issues.map Issue.toJson)),
    ("seed_summary", report.seeds.toJson),
    ("regions", .list (report.regions.map RegionSummary.toJson)),
    ("outcome", .text report.outcome.name)]

def jsonText (report : Report) : String := report.toJson.render

end Report

end IsaCensus
