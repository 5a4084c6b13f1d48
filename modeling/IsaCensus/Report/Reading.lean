import IsaCensus.Config.Json
import IsaCensus.Json.Shape
import IsaCensus.Report.Json

/-! Reading a report from its JSON text. The values with which a record begins are only there until
its fields are read, as no field but the format and the architecture can be missing. -/

namespace IsaCensus

open Json (FieldReader Reading)

/-- The kind of numbers that have 32 bits. -/
def halfWordKind : String := "u32"

def readWordCount : List Char → Except Json.Fault (Reading Nat) := Json.count wordKind UInt64.size

def readMemoryCount : List Char → Except Json.Fault (Reading Nat) := Json.count countKind UInt64.size

namespace FeatureUsage

/-- The usage with another count for a name. -/
def put (usage : FeatureUsage) (name : String) (count : Nat) : FeatureUsage :=
  add name count (usage.filter fun entry => entry.1 ≠ name)

/-- The usage that some entries make one after the other. -/
def ofEntries (entries : List (String × Nat)) : FeatureUsage :=
  entries.foldl (fun usage entry => usage.put entry.1 entry.2) []

def read (input : List Char) : Except Json.Fault (Reading FeatureUsage) :=
  (Json.table readWordCount input).map fun (entries, rest) => (ofEntries entries, rest)

end FeatureUsage

namespace Issue

def fields : List (FieldReader Issue) :=
  [.of "kind" (Json.variant (IssueKind.all.map IssueKind.name) IssueKind.ofName?) fun issue kind =>
      { issue with kind },
    .of "message" Json.string fun issue message => { issue with message }]

def read : List Char → Except Json.Fault (Reading Issue) :=
  Json.wholeRecord "struct Issue" fields [] ⟨.suppressed, ""⟩

end Issue

namespace SeedSource

def fields : List (FieldReader SeedSource) :=
  [.of "name" Json.string fun source name => { source with name },
    .of "candidates" readMemoryCount fun source candidates => { source with candidates },
    .of "added" readMemoryCount fun source added => { source with added },
    .of "skipped_zero" readMemoryCount fun source skippedZero => { source with skippedZero },
    .of "skipped_not_executable" readMemoryCount fun source skippedNotExecutable =>
      { source with skippedNotExecutable },
    .of "skipped_duplicate" readMemoryCount fun source skippedDuplicate => { source with skippedDuplicate }]

def read : List Char → Except Json.Fault (Reading SeedSource) :=
  Json.wholeRecord "struct SeedSource" fields [] { name := "" }

end SeedSource

namespace SeedSummary

def fields : List (FieldReader SeedSummary) :=
  [.of "sources" (Json.list SeedSource.read) fun summary sources => { summary with sources },
    .of "accepted" readMemoryCount fun summary accepted => { summary with accepted }]

def read : List Char → Except Json.Fault (Reading SeedSummary) :=
  Json.wholeRecord "struct SeedSummary" fields [] {}

end SeedSummary

namespace RegionSummary

def fields : List (FieldReader RegionSummary) :=
  [.of "label" Json.string fun region label => { region with label },
    .of "base_address" (Json.word wordKind) fun region base => { region with base },
    .of "length" readWordCount fun region length => { region with length }]

def read : List Char → Except Json.Fault (Reading RegionSummary) :=
  Json.wholeRecord "struct RegionSummary" fields [] ⟨"", 0, 0⟩

end RegionSummary

namespace Report

def fields : List (FieldReader Report) :=
  [.of "format" (Json.optional (Json.variant ["Elf", "Pe"] Format.ofName?)) fun report format =>
      { report with format },
    .of "architecture"
      (Json.optional (Json.variant ["X86", "X86_64", "Arm", "AArch64", "Other"] Architecture.ofName?))
      fun report architecture => { report with architecture },
    .of "bitness" (Json.count halfWordKind UInt32.size) fun report bitness => { report with bitness },
    .of "bytes_sampled" readWordCount fun report bytesSampled => { report with bytesSampled },
    .of "bytes_decoded" readWordCount fun report bytesDecoded => { report with bytesDecoded },
    .of "instruction_count" readWordCount fun report instructions => { report with instructions },
    .of "invalid_instruction_count" readWordCount fun report invalid => { report with invalid },
    .of "feature_usage" FeatureUsage.read fun report features => { report with features },
    .of "issues" (Json.list Issue.read) fun report issues => { report with issues },
    .of "seed_summary" SeedSummary.read fun report seeds => { report with seeds },
    .of "regions" (Json.list RegionSummary.read) fun report regions => { report with regions },
    .of "outcome" (Json.variant ["Completed", "Cancelled", "BudgetExhausted"] Outcome.ofName?)
      fun report outcome => { report with outcome }]

def read : List Char → Except Json.Fault (Reading Report) :=
  Json.wholeRecord "struct Report" fields ["format", "architecture"] {}

def parse (text : String) : Except Json.Fault Report := Json.document read text

end Report

end IsaCensus
