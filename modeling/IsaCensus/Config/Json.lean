import IsaCensus.Bytes
import IsaCensus.Config
import IsaCensus.Fault
import IsaCensus.Json.Record
import IsaCensus.Json.Value

/-! Configurations as JSON. A text may leave out any settings. -/

namespace IsaCensus

open Json (FieldReader)

def wordKind : String := "u64"

/-- The kind of settings that limit how much is kept in memory. -/
def countKind : String := "usize"

def ReadLimits.fields : List (FieldReader ReadLimits) :=
  [.of "max_file_size" (Json.word wordKind) fun limits n => { limits with maxFileSize := n },
    .of "max_read_bytes" (Json.word wordKind) fun limits n => { limits with maxReadBytes := n }]

def SeedToggles.fields : List (FieldReader SeedToggles) :=
  [.of "pointer_arrays" Json.truth fun sources on => { sources with pointerArrays := on },
    .of "symbols" Json.truth fun sources on => { sources with symbols := on },
    .of "unwind_tables" Json.truth fun sources on => { sources with unwindTables := on },
    .of "extra_entry_points" Json.truth fun sources on => { sources with extraEntryPoints := on }]

def ReadLimits.toJson (limits : ReadLimits) : Json.Value :=
  .object [("max_file_size", .number limits.maxFileSize.toNat),
    ("max_read_bytes", .number limits.maxReadBytes.toNat)]

def SeedToggles.toJson (sources : SeedToggles) : Json.Value :=
  .object [("pointer_arrays", .bool sources.pointerArrays), ("symbols", .bool sources.symbols),
    ("unwind_tables", .bool sources.unwindTables), ("extra_entry_points", .bool sources.extraEntryPoints)]

namespace Config

def fields : List (FieldReader Config) :=
  [.of "io" (Json.record "struct IoConfig" ReadLimits.fields {}) fun config io => { config with io },
    .of "max_region_bytes" (Json.word wordKind) fun config n => { config with maxRegionBytes := n },
    .of "max_issues" (Json.word countKind) fun config n => { config with maxIssues := n },
    .of "yield_interval" (Json.word wordKind) fun config n => { config with yieldInterval := n },
    .of "max_instructions" (Json.optional (Json.word wordKind)) fun config n => { config with maxInstructions := n },
    .of "max_pointer_array_entries" (Json.word countKind) fun config n =>
      { config with maxPointerArrayEntries := n },
    .of "max_unwind_entries" (Json.word countKind) fun config n => { config with maxUnwindEntries := n },
    .of "extra_entry_points" (Json.list (Json.word wordKind)) fun config addresses =>
      { config with extraEntryPoints := addresses },
    .of "sources" (Json.record "struct SeedSourceToggles" SeedToggles.fields {}) fun config sources =>
      { config with sources }]

def read (input : List Char) : Except Json.Fault (Json.Reading Config) :=
  Json.record "struct SamplerConfig" fields {} input

def parse (text : String) : Except Fault Config :=
  (Json.document read text).mapError fun fault => .config fault.message

/-- The configuration of a file, which has to hold text. -/
def ofFile (content : Except ReadFault Bytes) : Except Fault Config :=
  match content with
  | .error fault => .error (.io fault)
  | .ok bytes =>
    match String.fromUTF8? ⟨bytes⟩ with
    | some text => parse text
    | none => .error (.io (.system "stream did not contain valid UTF-8"))

def toJson (config : Config) : Json.Value :=
  .object [
    ("io", config.io.toJson),
    ("max_region_bytes", .number config.maxRegionBytes.toNat),
    ("max_issues", .number config.maxIssues.toNat),
    ("yield_interval", .number config.yieldInterval.toNat),
    ("max_instructions",
      match config.maxInstructions with
      | some limit => .number limit.toNat
      | none => .null),
    ("max_pointer_array_entries", .number config.maxPointerArrayEntries.toNat),
    ("max_unwind_entries", .number config.maxUnwindEntries.toNat),
    ("extra_entry_points", .list (config.extraEntryPoints.map fun address => .number address.toNat)),
    ("sources", config.sources.toJson)]

end Config

end IsaCensus
