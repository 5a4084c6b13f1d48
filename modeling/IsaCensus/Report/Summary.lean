import IsaCensus.Report

/-! A report as text for people: what was looked at, where the seeds came from, the features
that are used most, and the issues. -/

namespace IsaCensus

def padRight (width : Nat) (text : String) : String :=
  text ++ String.ofList (List.replicate (width - text.length) ' ')

def padLeft (width : Nat) (text : String) : String :=
  String.ofList (List.replicate (width - text.length) ' ') ++ text

namespace Report

/-- The first line, behind the name of the file. -/
def heading (report : Report) : String :=
  (report.format.map Format.text).getD "?" ++ " " ++ (report.architecture.map Architecture.text).getD "?" ++
    " " ++ toString report.bitness ++ "-bit, " ++ toString report.instructions ++ " instructions (" ++
    toString report.invalid ++ " invalid), " ++ toString report.bytesDecoded ++ "/" ++
    toString report.bytesSampled ++ " bytes decoded [" ++ report.outcome.name ++ "]"

def seedLine (report : Report) : String :=
  let share (source : SeedSource) : String :=
    source.name ++ " " ++ toString source.added ++ "/" ++ toString source.candidates
  "  seeds: " ++ toString report.seeds.accepted ++ " accepted (" ++
    String.intercalate ", " (report.seeds.sources.map share) ++ ")"

def featureLine (feature : String × Nat) : String :=
  "  " ++ padRight 24 feature.1 ++ " " ++ padLeft 10 (toString feature.2)

/-- The lines of the summary, with the `top` features that are used most. -/
def summary (report : Report) (path : String) (top : Nat) : List String :=
  [path ++ ": " ++ report.heading, report.seedLine] ++
    (report.featuresByCount.take top).map featureLine ++
    report.issues.map fun issue => "  ! " ++ issue.text

end Report

end IsaCensus
