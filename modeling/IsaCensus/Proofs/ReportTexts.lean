import IsaCensus.Proofs.FeatureCounts
import IsaCensus.Proofs.JsonReaders
import IsaCensus.Report.Reading

/-! Reports that are read back from their texts. All strings and lists in a report are arbitrary; its
numbers have the size of their fields, and its features are in the order of their names. -/

namespace IsaCensus

open Json (Reads)

structure SeedSource.Sized (source : SeedSource) : Prop where
  candidates : source.candidates < UInt64.size
  added : source.added < UInt64.size
  skippedZero : source.skippedZero < UInt64.size
  skippedNotExecutable : source.skippedNotExecutable < UInt64.size
  skippedDuplicate : source.skippedDuplicate < UInt64.size

structure SeedSummary.Sized (summary : SeedSummary) : Prop where
  sources : ∀ source ∈ summary.sources, source.Sized
  accepted : summary.accepted < UInt64.size

/-- A report as its fields can hold it: its numbers have 32 or 64 bits, and each feature stands once, in
the order of the names. -/
structure Report.Sized (report : Report) : Prop where
  bitness : report.bitness < UInt32.size
  bytesSampled : report.bytesSampled < UInt64.size
  bytesDecoded : report.bytesDecoded < UInt64.size
  instructions : report.instructions < UInt64.size
  invalid : report.invalid < UInt64.size
  features : ∀ entry ∈ report.features, entry.2 < UInt64.size
  ordered : report.features.Ordered
  seeds : report.seeds.Sized
  regions : ∀ region ∈ report.regions, region.length < UInt64.size

namespace FeatureUsage

variable {usage : FeatureUsage} {name : String}

/-- A name that is behind all others comes last. -/
theorem add_behind (behind : ∀ entry ∈ usage, entry.1 < name) (count : Nat) :
    usage.add name count = usage ++ [(name, count)] := by
  induction usage with
  | nil => rfl
  | cons entry rest ih =>
    have less : entry.1 < name := behind entry List.mem_cons_self
    have different : name ≠ entry.1 := fun same => String.lt_irrefl _ (same ▸ less)
    rw [add, if_neg different, if_neg (String.lt_asymm less), List.cons_append,
      ih fun later listed => behind later (List.mem_cons_of_mem entry listed)]

theorem put_behind (behind : ∀ entry ∈ usage, entry.1 < name) (count : Nat) :
    usage.put name count = usage ++ [(name, count)] := by
  have others : usage.filter (fun entry => entry.1 ≠ name) = usage := by
    refine List.filter_eq_self.mpr fun entry listed => decide_eq_true fun same => ?_
    exact String.lt_irrefl _ (same ▸ behind entry listed)
  rw [put, others, add_behind behind]

/-- Entries in order stay as they are. -/
theorem Ordered.ofEntries (ordered : usage.Ordered) : FeatureUsage.ofEntries usage = usage := by
  have all (rest front : FeatureUsage) (ordered : (front ++ rest).Ordered) :
      rest.foldl (fun usage entry => usage.put entry.1 entry.2) front = front ++ rest := by
    induction rest generalizing front with
    | nil => exact (List.append_nil front).symm
    | cons entry rest ih =>
      have behind : ∀ earlier ∈ front, earlier.1 < entry.1 := fun earlier listed =>
        (List.pairwise_append.mp ordered).2.2 earlier listed entry List.mem_cons_self
      rw [List.foldl_cons, put_behind behind, ih _ (List.append_cons front entry rest ▸ ordered), ← List.append_cons]
  exact all usage [] ordered

end FeatureUsage

theorem wordCount_reads {n : Nat} (fits : n < UInt64.size) : Reads readWordCount (.number n) n :=
  Json.count_reads _ fits (Nat.le_refl _)

theorem memoryCount_reads {n : Nat} (fits : n < UInt64.size) : Reads readMemoryCount (.number n) n :=
  Json.count_reads _ fits (Nat.le_refl _)

theorem FeatureUsage.Ordered.reads {usage : FeatureUsage} (ordered : usage.Ordered)
    (fits : ∀ entry ∈ usage, entry.2 < UInt64.size) :
    Reads FeatureUsage.read (.object (usage.map fun (name, n) => (name, .number n))) usage := by
  have entries : Reads (Json.table readWordCount) (.object (usage.map fun (name, n) => (name, .number n))) usage :=
    Json.table_reads fun entry listed => wordCount_reads (fits entry listed)
  intro more text ends spaced
  obtain ⟨rest, spaced, read⟩ := entries _ _ ends spaced
  exact ⟨rest, spaced, by simp [FeatureUsage.read, read, Except.map, ordered.ofEntries]⟩

theorem Issue.reads (issue : Issue) : Reads Issue.read issue.toJson issue := by
  refine Json.wholeRecord_reads _ _ ?_ (by decide)
  exact .of (Json.variant_reads _ (IssueKind.ofName_name issue.kind)) <|
    .of (Json.string_reads issue.message) <|
    .nothing issue

theorem SeedSource.Sized.reads {source : SeedSource} (sized : source.Sized) :
    Reads SeedSource.read source.toJson source := by
  refine Json.wholeRecord_reads _ _ ?_ (by decide)
  exact .of (Json.string_reads source.name) <|
    .of (memoryCount_reads sized.candidates) <|
    .of (memoryCount_reads sized.added) <|
    .of (memoryCount_reads sized.skippedZero) <|
    .of (memoryCount_reads sized.skippedNotExecutable) <|
    .of (memoryCount_reads sized.skippedDuplicate) <|
    .nothing source

theorem SeedSummary.Sized.reads {summary : SeedSummary} (sized : summary.Sized) :
    Reads SeedSummary.read summary.toJson summary := by
  refine Json.wholeRecord_reads _ _ ?_ (by decide)
  exact .of (Json.list_reads fun source listed => (sized.sources source listed).reads) <|
    .of (memoryCount_reads sized.accepted) <|
    .nothing summary

theorem RegionSummary.reads {region : RegionSummary} (fits : region.length < UInt64.size) :
    Reads RegionSummary.read region.toJson region := by
  refine Json.wholeRecord_reads _ _ ?_ (by decide)
  exact .of (Json.string_reads region.label) <|
    .of (Json.word_reads _ region.base) <|
    .of (wordCount_reads fits) <|
    .nothing region

theorem optionalName_reads {α : Type} {name : α → String} {ofName? : String → Option α}
    (means : ∀ a, ofName? (name a) = some a) (known : List String) (value : Option α) :
    Reads (Json.optional (Json.variant known ofName?)) (Report.optionalName (value.map name)) value := by
  cases value with
  | none => exact Json.none_reads
  | some a => exact Json.some_reads (Json.variant_reads known (means a)) (by simp [Report.optionalName])

theorem Format.ofName_name (format : Format) : Format.ofName? format.name = some format := by
  cases format <;> rfl

theorem Architecture.ofName_name (architecture : Architecture) :
    Architecture.ofName? architecture.name = some architecture := by
  cases architecture <;> rfl

theorem Outcome.ofName_name (outcome : Outcome) : Outcome.ofName? outcome.name = some outcome := by
  cases outcome <;> rfl

theorem Report.Sized.reads {report : Report} (sized : report.Sized) : Reads Report.read report.toJson report := by
  refine Json.wholeRecord_reads _ _ ?_ (by decide)
  exact .of (optionalName_reads Format.ofName_name _ report.format) <|
    .of (optionalName_reads Architecture.ofName_name _ report.architecture) <|
    .of (Json.count_reads _ sized.bitness (by decide)) <|
    .of (wordCount_reads sized.bytesSampled) <|
    .of (wordCount_reads sized.bytesDecoded) <|
    .of (wordCount_reads sized.instructions) <|
    .of (wordCount_reads sized.invalid) <|
    .of (sized.ordered.reads sized.features) <|
    .of (Json.list_reads fun issue _ => issue.reads) <|
    .of sized.seeds.reads <|
    .of (Json.list_reads fun region listed => RegionSummary.reads (sized.regions region listed)) <|
    .of (Json.variant_reads _ (Outcome.ofName_name report.outcome)) <|
    .nothing report

theorem Report.Sized.parses {report : Report} (sized : report.Sized) :
    Report.parse report.jsonText = .ok report :=
  Json.document_reads sized.reads report.toJson.render_spaced

/-- A report is read back from its text, so no other report has this text. -/
theorem reports_read_back {report : Report} (sized : report.Sized) :
    Report.parse report.jsonText = .ok report ∧
      ∀ other : Report, other.Sized → other.jsonText = report.jsonText → other = report := by
  refine ⟨sized.parses, fun other otherSized same => ?_⟩
  have both := otherSized.parses.symm.trans (same ▸ sized.parses)
  exact Except.ok.inj both

/-- Quotes, backslashes, control characters and other alphabets, and no architecture. -/
theorem odd_names_read_back :
    let report : Report :=
      { format := some .pe, bitness := 64, bytesSampled := 18446744073709551615,
        features := [("\"AVX\"", 3), ("SSE\\2", 18446744073709551615)],
        issues := [⟨.exception, "line\n\x01\t\x7b über \u2028"⟩], regions := [⟨"", 0, 0⟩],
        seeds := { sources := [{ name := "\x7f", candidates := 1 }] } }
    report.Sized ∧ Report.parse report.jsonText = .ok report := by
  intro report
  have sized : report.Sized :=
    { bitness := by decide, bytesSampled := by decide, bytesDecoded := by decide, instructions := by decide,
      invalid := by decide, features := by decide, ordered := by unfold FeatureUsage.Ordered; decide,
      regions := by decide,
      seeds := ⟨fun source listed => by
        obtain rfl := List.mem_singleton.mp listed
        exact ⟨by decide, by decide, by decide, by decide, by decide⟩, by decide⟩ }
  exact ⟨sized, (reports_read_back sized).1⟩

end IsaCensus
