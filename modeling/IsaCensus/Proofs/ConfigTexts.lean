import Mathlib.Data.List.Nodup
import IsaCensus.Config.Json
import IsaCensus.Proofs.JsonReaders

/-! Configurations that are read from their texts. A text lists some settings, and some of the settings
within two of them. These are what they were when the text was written, and all others are what they
are by default. -/

namespace IsaCensus

open Json (FieldReader Fills Reading Reads Spaced)

namespace Json

variable {σ ρ : Type} {fields : List (FieldReader ρ)} {name : σ → String} {value : σ → Value}
  {replaced : List σ → ρ → ρ}

/-- One of the fields makes of a record what the value under this name asks for. -/
def Known (fields : List (FieldReader ρ)) (name : String) (value : Value) (put : ρ → ρ) : Prop :=
  ∃ field ∈ fields, field.name = name ∧ ∀ record, Reads (field.read record) value (put record)

theorem Known.at_place {α : Type} {name : String} {value : Value} {put : ρ → ρ} {set : ρ → α → ρ} {result : α}
    {read : List Char → Except Fault (Reading α)} (place : Nat) (here : fields[place]? = some (.of name read set))
    (reads : Reads read value result) (puts : ∀ record, put record = set record result) :
    Known fields name value put := by
  refine ⟨_, List.mem_of_getElem? here, rfl, fun record => ?_⟩
  rw [puts]
  exact of_reads reads

/-- Replacing some settings means to replace one after the other. -/
structure Stepwise (replaced : List σ → ρ → ρ) : Prop where
  nothing : ∀ record, replaced [] record = record
  also : ∀ setting settings record, replaced settings (replaced [setting] record) = replaced (setting :: settings) record

theorem settings_fill (stepwise : Stepwise replaced)
    (known : ∀ setting, Known fields (name setting) (value setting) (replaced [setting]))
    (settings : List σ) (record : ρ) :
    ∃ used, used ⊆ fields ∧ used.map FieldReader.name = settings.map name ∧
      Fills used (settings.map fun setting => (name setting, value setting)) record (replaced settings record) := by
  induction settings generalizing record with
  | nil =>
    rw [stepwise.nothing]
    exact ⟨[], List.nil_subset _, rfl, .nothing record⟩
  | cons setting settings ih =>
    obtain ⟨field, listed, named, reads⟩ := known setting
    obtain ⟨used, among, names, fills⟩ := ih (replaced [setting] record)
    refine ⟨field :: used, List.cons_subset.mpr ⟨listed, among⟩, ?_, ?_⟩
    · rw [List.map_cons, List.map_cons, names, named]
    · rw [List.map_cons, ← named, ← stepwise.also]
      exact .field (reads record) fills

/-- A record is read from some of its settings, which are replaced then. -/
theorem settings_read (stepwise : Stepwise replaced)
    (known : ∀ setting, Known fields (name setting) (value setting) (replaced [setting]))
    (distinct : (fields.map FieldReader.name).Nodup) {settings : List σ} (once : (settings.map name).Nodup)
    (expected : String) (start : ρ) :
    Reads (record expected fields start) (.object (settings.map fun setting => (name setting, value setting)))
      (replaced settings start) := by
  obtain ⟨used, among, names, fills⟩ := settings_fill stepwise known settings start
  exact record_reads expected fills distinct among (names ▸ once)

end Json

/-- What is replaced for a setting and then for others is replaced for all of them. -/
theorem replaced_also {σ α : Type} [DecidableEq σ] (one setting : σ) (settings : List σ) (given kept : α) :
    (if one ∈ settings then given else if one ∈ [setting] then given else kept) =
      if one ∈ setting :: settings then given else kept := by
  by_cases here : one = setting <;> by_cases there : one ∈ settings <;> simp [here, there]

namespace ReadLimits

inductive Setting
  | maxFileSize
  | maxReadBytes
deriving DecidableEq

def Setting.name : Setting → String
  | .maxFileSize => "max_file_size"
  | .maxReadBytes => "max_read_bytes"

def value (given : ReadLimits) : Setting → Json.Value
  | .maxFileSize => .number given.maxFileSize.toNat
  | .maxReadBytes => .number given.maxReadBytes.toNat

/-- The limits with some settings as they are given. -/
def replaced (settings : List Setting) (given limits : ReadLimits) : ReadLimits where
  maxFileSize := if .maxFileSize ∈ settings then given.maxFileSize else limits.maxFileSize
  maxReadBytes := if .maxReadBytes ∈ settings then given.maxReadBytes else limits.maxReadBytes

def listed (settings : List Setting) (given : ReadLimits) : Json.Value :=
  .object (settings.map fun setting => (setting.name, given.value setting))

theorem replaced_stepwise (given : ReadLimits) : Json.Stepwise fun settings => replaced settings given where
  nothing _ := rfl
  also _ _ _ := by simp only [replaced, replaced_also]

theorem Setting.name_injective : Function.Injective Setting.name := by
  intro one other
  cases one <;> cases other <;> decide

theorem Setting.known (given : ReadLimits) (setting : Setting) :
    Json.Known fields setting.name (given.value setting) (replaced [setting] given) := by
  cases setting with
  | maxFileSize => exact .at_place 0 rfl (Json.word_reads _ _) fun _ => rfl
  | maxReadBytes => exact .at_place 1 rfl (Json.word_reads _ _) fun _ => rfl

theorem listed_reads (expected : String) {settings : List Setting} (once : settings.Nodup) (given start : ReadLimits) :
    Reads (Json.record expected fields start) (given.listed settings) (replaced settings given start) :=
  Json.settings_read given.replaced_stepwise (Setting.known given) (by decide)
    (once.map Setting.name_injective) expected start

end ReadLimits

namespace SeedToggles

inductive Setting
  | pointerArrays
  | symbols
  | unwindTables
  | extraEntryPoints
deriving DecidableEq

def Setting.name : Setting → String
  | .pointerArrays => "pointer_arrays"
  | .symbols => "symbols"
  | .unwindTables => "unwind_tables"
  | .extraEntryPoints => "extra_entry_points"

def value (given : SeedToggles) : Setting → Json.Value
  | .pointerArrays => .bool given.pointerArrays
  | .symbols => .bool given.symbols
  | .unwindTables => .bool given.unwindTables
  | .extraEntryPoints => .bool given.extraEntryPoints

/-- The toggles with some settings as they are given. -/
def replaced (settings : List Setting) (given toggles : SeedToggles) : SeedToggles where
  pointerArrays := if .pointerArrays ∈ settings then given.pointerArrays else toggles.pointerArrays
  symbols := if .symbols ∈ settings then given.symbols else toggles.symbols
  unwindTables := if .unwindTables ∈ settings then given.unwindTables else toggles.unwindTables
  extraEntryPoints := if .extraEntryPoints ∈ settings then given.extraEntryPoints else toggles.extraEntryPoints

def listed (settings : List Setting) (given : SeedToggles) : Json.Value :=
  .object (settings.map fun setting => (setting.name, given.value setting))

theorem replaced_stepwise (given : SeedToggles) : Json.Stepwise fun settings => replaced settings given where
  nothing _ := rfl
  also _ _ _ := by simp only [replaced, replaced_also]

theorem Setting.name_injective : Function.Injective Setting.name := by
  intro one other
  cases one <;> cases other <;> decide

theorem Setting.known (given : SeedToggles) (setting : Setting) :
    Json.Known fields setting.name (given.value setting) (replaced [setting] given) := by
  cases setting with
  | pointerArrays => exact .at_place 0 rfl (Json.truth_reads _) fun _ => rfl
  | symbols => exact .at_place 1 rfl (Json.truth_reads _) fun _ => rfl
  | unwindTables => exact .at_place 2 rfl (Json.truth_reads _) fun _ => rfl
  | extraEntryPoints => exact .at_place 3 rfl (Json.truth_reads _) fun _ => rfl

theorem listed_reads (expected : String) {settings : List Setting} (once : settings.Nodup) (given start : SeedToggles) :
    Reads (Json.record expected fields start) (given.listed settings) (replaced settings given start) :=
  Json.settings_read given.replaced_stepwise (Setting.known given) (by decide)
    (once.map Setting.name_injective) expected start

end SeedToggles

namespace Config

inductive Setting
  | io
  | maxRegionBytes
  | maxIssues
  | yieldInterval
  | maxInstructions
  | maxPointerArrayEntries
  | maxUnwindEntries
  | extraEntryPoints
  | sources
deriving DecidableEq

def Setting.name : Setting → String
  | .io => "io"
  | .maxRegionBytes => "max_region_bytes"
  | .maxIssues => "max_issues"
  | .yieldInterval => "yield_interval"
  | .maxInstructions => "max_instructions"
  | .maxPointerArrayEntries => "max_pointer_array_entries"
  | .maxUnwindEntries => "max_unwind_entries"
  | .extraEntryPoints => "extra_entry_points"
  | .sources => "sources"

/-- The configuration with some settings as they are given. -/
def replaced (settings : List Setting) (given config : Config) : Config where
  io := if .io ∈ settings then given.io else config.io
  maxRegionBytes := if .maxRegionBytes ∈ settings then given.maxRegionBytes else config.maxRegionBytes
  maxIssues := if .maxIssues ∈ settings then given.maxIssues else config.maxIssues
  yieldInterval := if .yieldInterval ∈ settings then given.yieldInterval else config.yieldInterval
  maxInstructions := if .maxInstructions ∈ settings then given.maxInstructions else config.maxInstructions
  maxPointerArrayEntries :=
    if .maxPointerArrayEntries ∈ settings then given.maxPointerArrayEntries else config.maxPointerArrayEntries
  maxUnwindEntries := if .maxUnwindEntries ∈ settings then given.maxUnwindEntries else config.maxUnwindEntries
  extraEntryPoints := if .extraEntryPoints ∈ settings then given.extraEntryPoints else config.extraEntryPoints
  sources := if .sources ∈ settings then given.sources else config.sources

/-- The settings that a text lists on its two levels, in the order in which they stand there. None stands
there twice. -/
structure Listing where
  settings : List Setting
  limits : List ReadLimits.Setting
  toggles : List SeedToggles.Setting
  settingsOnce : settings.Nodup
  limitsOnce : limits.Nodup
  togglesOnce : toggles.Nodup

namespace Listing

def value (listing : Listing) (given : Config) : Setting → Json.Value
  | .io => given.io.listed listing.limits
  | .maxRegionBytes => .number given.maxRegionBytes.toNat
  | .maxIssues => .number given.maxIssues.toNat
  | .yieldInterval => .number given.yieldInterval.toNat
  | .maxInstructions =>
    match given.maxInstructions with
    | some limit => .number limit.toNat
    | none => .null
  | .maxPointerArrayEntries => .number given.maxPointerArrayEntries.toNat
  | .maxUnwindEntries => .number given.maxUnwindEntries.toNat
  | .extraEntryPoints => .list (given.extraEntryPoints.map fun address => .number address.toNat)
  | .sources => given.sources.listed listing.toggles

/-- The settings of a configuration that are listed. -/
def json (listing : Listing) (given : Config) : Json.Value :=
  .object (listing.settings.map fun setting => (setting.name, listing.value given setting))

/-- The given configuration with the default for what is not listed on the second level. -/
def inner (listing : Listing) (given : Config) : Config :=
  { given with
    io := given.io.replaced listing.limits {}
    sources := given.sources.replaced listing.toggles {} }

/-- The default configuration with the listed settings as they are given. -/
def config (listing : Listing) (given : Config) : Config :=
  replaced listing.settings (listing.inner given) {}

/-- All settings, in the order in which a configuration is written. -/
def all : Listing where
  settings := [.io, .maxRegionBytes, .maxIssues, .yieldInterval, .maxInstructions, .maxPointerArrayEntries,
    .maxUnwindEntries, .extraEntryPoints, .sources]
  limits := [.maxFileSize, .maxReadBytes]
  toggles := [.pointerArrays, .symbols, .unwindTables, .extraEntryPoints]
  settingsOnce := by decide
  limitsOnce := by decide
  togglesOnce := by decide

theorem all_json (given : Config) : all.json given = given.toJson := rfl

theorem all_config (given : Config) : all.config given = given := rfl

end Listing

theorem replaced_stepwise (given : Config) : Json.Stepwise fun settings => replaced settings given where
  nothing _ := rfl
  also _ _ _ := by simp only [replaced, replaced_also]

theorem Setting.name_injective : Function.Injective Setting.name := by
  intro one other
  cases one <;> cases other <;> decide

namespace Listing

theorem budget_reads (budget : Option UInt64) :
    Reads (Json.optional (Json.word wordKind))
      (match budget with
      | some limit => .number limit.toNat
      | none => .null) budget := by
  cases budget with
  | none => exact Json.none_reads
  | some limit => exact Json.some_reads (Json.word_reads _ limit) (by simp)

theorem addresses_read (addresses : List UInt64) :
    Reads (Json.list (Json.word wordKind)) (.list (addresses.map fun address => .number address.toNat)) addresses :=
  Json.list_reads fun address _ => Json.word_reads _ address

theorem known (listing : Listing) (given : Config) (setting : Setting) :
    Json.Known fields setting.name (listing.value given setting) (replaced [setting] (listing.inner given)) := by
  cases setting with
  | io => exact .at_place 0 rfl (ReadLimits.listed_reads _ listing.limitsOnce _ _) fun _ => rfl
  | maxRegionBytes => exact .at_place 1 rfl (Json.word_reads _ _) fun _ => rfl
  | maxIssues => exact .at_place 2 rfl (Json.word_reads _ _) fun _ => rfl
  | yieldInterval => exact .at_place 3 rfl (Json.word_reads _ _) fun _ => rfl
  | maxInstructions => exact .at_place 4 rfl (budget_reads _) fun _ => rfl
  | maxPointerArrayEntries => exact .at_place 5 rfl (Json.word_reads _ _) fun _ => rfl
  | maxUnwindEntries => exact .at_place 6 rfl (Json.word_reads _ _) fun _ => rfl
  | extraEntryPoints => exact .at_place 7 rfl (addresses_read _) fun _ => rfl
  | sources => exact .at_place 8 rfl (SeedToggles.listed_reads _ listing.togglesOnce _ _) fun _ => rfl

theorem reads (listing : Listing) (given : Config) : Reads read (listing.json given) (listing.config given) :=
  Json.settings_read (listing.inner given).replaced_stepwise (listing.known given) (by decide)
    (listing.settingsOnce.map Setting.name_injective) _ _

/-- Whatever blanks there are in the text, it makes the configuration. -/
theorem parses (listing : Listing) (given : Config) {text : String}
    (spaced : Spaced (listing.json given).tokens text.toList) : parse text = .ok (listing.config given) := by
  rw [parse, Json.document_reads (listing.reads given) spaced]
  rfl

end Listing

end Config

/-- A configuration is read back from its own text, and from any text that lists some of its settings, up
to the settings that are not listed. -/
theorem configurations_read_back :
    (∀ config : Config, Config.parse config.toJson.compact = .ok config ∧
      Config.parse config.toJson.render = .ok config) ∧
    ∀ (listing : Config.Listing) (given : Config) (text : String),
      Spaced (listing.json given).tokens text.toList → Config.parse text = .ok (listing.config given) := by
  refine ⟨fun config => ?_, fun listing given text => listing.parses given⟩
  have whole (text : String) (spaced : Spaced config.toJson.tokens text.toList) : Config.parse text = .ok config := by
    rw [← Config.Listing.all_json config] at spaced
    rw [Config.Listing.all.parses config spaced, Config.Listing.all_config]
  exact ⟨whole _ config.toJson.compact_spaced, whole _ config.toJson.render_spaced⟩

/-- The toggles that a text does not list stay on. -/
theorem partial_sources_read :
    let listing : Config.Listing :=
      { settings := [.sources, .maxIssues], limits := [], toggles := [.symbols],
        settingsOnce := by decide, limitsOnce := by decide, togglesOnce := by decide }
    let given : Config := { maxIssues := 5, yieldInterval := 1, sources := { symbols := false, unwindTables := false } }
    let text := " \x7b \"sources\": \x7b\"symbols\":false\x7d,\n\t\"max_issues\" :5\x7d\r\n"
    Spaced (listing.json given).tokens text.toList ∧
      Config.parse text = .ok { maxIssues := 5, sources := { symbols := false } } := by
  intro listing given text
  have spaced : Spaced (listing.json given).tokens text.toList := Json.spaced_of_hasTokens (by decide)
  exact ⟨spaced, configurations_read_back.2 listing given text spaced⟩

end IsaCensus
