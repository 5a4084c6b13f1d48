import IsaCensus.Census

/-! What the phases of a census find, listed apart from the log that they are given. Each phase is a
list of readings, and each reading leaves at most one issue. Running the phase hands on the log with
these issues, one after the other; what else it finds does not depend on the log. -/

namespace IsaCensus

namespace Source

/-- Reads the items one after the other, each from the source as the one before has left it. -/
def readEach {α β : Type} (reading : α → Source → β × Source) : List α → Source → List β × Source
  | [], source => ([], source)
  | item :: rest, source =>
    let (first, source) := reading item source
    let (others, source) := readEach reading rest source
    (first :: others, source)

section ReadEach
variable {α β : Type} (reading : α → Source → β × Source)

theorem readEach_append (first second : List α) (source : Source) :
    source.readEach reading (first ++ second) =
      ((source.readEach reading first).1 ++ ((source.readEach reading first).2.readEach reading second).1,
        ((source.readEach reading first).2.readEach reading second).2) := by
  induction first generalizing source with
  | nil => rfl
  | cons item rest ih => simp only [List.cons_append, readEach, ih]

/-- Each value was read for one of the items, from the source as it was at that turn. -/
theorem mem_readEach {items : List α} {source : Source} {value : β}
    (listed : value ∈ (source.readEach reading items).1) : ∃ item ∈ items, ∃ turn, (reading item turn).1 = value := by
  induction items generalizing source with
  | nil => cases listed
  | cons item rest ih =>
    rcases List.mem_cons.mp listed with rfl | later
    · exact ⟨item, List.mem_cons_self, source, rfl⟩
    · obtain ⟨other, member, turn, read⟩ := ih later
      exact ⟨other, List.mem_cons_of_mem item member, turn, read⟩

/-- What is not read from the source is only listed. -/
theorem readEach_pure (value : α → β) (items : List α) (source : Source) :
    source.readEach (fun item source => (value item, source)) items = (items.map value, source) := by
  induction items with
  | nil => rfl
  | cons item rest ih => simp only [readEach, ih, List.map_cons]

theorem length_readEach (items : List α) (source : Source) :
    (source.readEach reading items).1.length = items.length := by
  induction items generalizing source with
  | nil => rfl
  | cons item rest ih => exact congrArg (· + 1) (ih (reading item source).2)

end ReadEach

end Source

/-! The regions of a container. -/

structure Regions where
  regions : List Region
  issues : List Issue
deriving DecidableEq, Repr

def Layout.regions (layout : Layout) (config : Config) (source : Source) : Regions × Source :=
  let (extractions, source) :=
    source.readEach (MappedRange.extract layout.domain config.maxRegionBytes) layout.code.2
  ({ regions := extractions.filterMap Extraction.region
     issues := extractions.filterMap Extraction.issue }, source)

theorem Layout.length_regions {layout : Layout} {config : Config} {source : Source} {region : Region}
    (listed : region ∈ (layout.regions config source).1.regions) :
    region.length ≤ config.maxRegionBytes.toNat := by
  obtain ⟨extraction, member, found⟩ := List.mem_filterMap.mp listed
  obtain ⟨range, _, turn, rfl⟩ := Source.mem_readEach _ member
  exact MappedRange.length_extract found

namespace Resolution

theorem foldl_read (domain : Domain) (cap : UInt64) (ranges : List MappedRange) (resolution : Resolution) :
    let found := resolution.source.readEach (MappedRange.extract domain cap) ranges
    ranges.foldl (read domain cap) resolution =
      { regions := resolution.regions ++ (found.1.filterMap Extraction.region).toArray
        log := (found.1.filterMap Extraction.issue).foldl IssueLog.push resolution.log
        source := found.2 } := by
  induction ranges generalizing resolution with
  | nil => simp [Source.readEach]
  | cons range rest ih =>
    rw [List.foldl_cons, ih]
    simp only [Source.readEach, read]
    cases region : (range.extract domain cap resolution.source).1.region <;>
      cases issue : (range.extract domain cap resolution.source).1.issue <;>
      simp [region, issue, IssueLog.note]

end Resolution

/-- The regions are resolved alike whatever is in the log, which gets their issues. -/
theorem Layout.resolve_eq (layout : Layout) (config : Config) (log : IssueLog) (source : Source) :
    layout.resolve config log source = ((layout.regions config source).1.regions,
      (layout.regions config source).1.issues.foldl IssueLog.push log, (layout.regions config source).2) := by
  simp [resolve, Resolution.foldl_read, regions]

/-! The seeds in these regions. -/

/-- Everything that the enabled sources of a layout offer, in the order they are asked. -/
def Layout.readings (layout : Layout) (config : Config) (source : Source) : List Reading × Source :=
  let (arrays, source) := source.readEach (PointerArray.reading layout config)
    (if config.sources.pointerArrays then layout.pointerArrays else [])
  let symbols := if config.sources.symbols then layout.symbolTables.map layout.symbolOffer else []
  let (tables, source) := source.readEach (UnwindTable.reading layout config)
    (if config.sources.unwindTables then layout.unwindTables else [])
  let extra := if config.sources.extraEntryPoints then
      [Offer.mk "extra_entry_points" config.extraEntryPoints] else []
  ([{ offer := ⟨"entry_point", [layout.entry]⟩ }] ++ arrays ++ symbols.map ({ offer := · }) ++ tables ++
    extra.map ({ offer := · }), source)

structure Seeds where
  set : SeedSet
  issues : List Issue
deriving DecidableEq, Repr

def Layout.seeds (layout : Layout) (config : Config) (regions : List Region) (source : Source) :
    Seeds × Source :=
  let (readings, source) := layout.readings config source
  ({ set := SeedSet.collect ⟨layout.domain, regions⟩ (readings.map Reading.offer)
     issues := readings.filterMap Reading.issue }, source)

namespace Gathering

/-- What has been gathered when these readings have been made as well. -/
def behind (gathering : Gathering) (readings : List Reading) (source : Source) : Gathering where
  collector := (readings.map Reading.offer).foldl Collector.offer gathering.collector
  log := (readings.filterMap Reading.issue).foldl IssueLog.push gathering.log
  source := source

theorem behind_behind (gathering : Gathering) (first second : List Reading) (source turn : Source) :
    (gathering.behind first turn).behind second source = gathering.behind (first ++ second) source := by
  simp only [behind, List.map_append, List.filterMap_append, List.foldl_append]

theorem offer_eq (gathering : Gathering) (offer : Offer) :
    gathering.offer offer = gathering.behind [{ offer }] gathering.source := rfl

theorem read_eq (gathering : Gathering) (reading : Source → Reading × Source) :
    gathering.read reading = gathering.behind [(reading gathering.source).1] (reading gathering.source).2 := by
  cases told : (reading gathering.source).1.issue <;> simp [read, behind, told, IssueLog.note]

/-- Tables that are not enabled are as good as none. -/
theorem read_enabled {α : Type} (enabled : Bool) (reading : α → Source → Reading × Source) (items : List α)
    (gathering : Gathering) :
    let read := gathering.source.readEach reading (if enabled then items else [])
    (if enabled then items.foldl (fun gathering item => gathering.read (reading item)) gathering else gathering) =
      gathering.behind read.1 read.2 := by
  cases enabled with
  | false => rfl
  | true =>
    induction items generalizing gathering with
    | nil => rfl
    | cons item rest ih =>
      simp only [if_true, List.foldl_cons] at ih ⊢
      rw [ih, read_eq, behind_behind]
      rfl

theorem offer_enabled {α : Type} (enabled : Bool) (offered : α → Offer) (items : List α) (gathering : Gathering) :
    (if enabled then items.foldl (fun gathering item => gathering.offer (offered item)) gathering else gathering) =
      gathering.behind ((if enabled then items.map offered else []).map ({ offer := · })) gathering.source := by
  have read := read_enabled enabled (fun item source => ({ offer := offered item }, source)) items gathering
  rw [Source.readEach_pure] at read
  cases enabled with
  | false => rfl
  | true => exact read.trans (by rw [if_pos rfl, if_pos rfl, List.map_map]; rfl)

end Gathering

/-- The seeds are collected alike whatever is in the log, which gets their issues. -/
theorem Layout.collect_eq (layout : Layout) (config : Config) (regions : List Region) (log : IssueLog)
    (source : Source) : layout.collect config regions log source = ((layout.seeds config regions source).1.set,
      (layout.seeds config regions source).1.issues.foldl IssueLog.push log,
      (layout.seeds config regions source).2) := by
  have extra (gathering : Gathering) : (if config.sources.extraEntryPoints then
        gathering.offer ⟨"extra_entry_points", config.extraEntryPoints⟩ else gathering) =
      gathering.behind ((if config.sources.extraEntryPoints then
        [Offer.mk "extra_entry_points" config.extraEntryPoints] else []).map ({ offer := · })) gathering.source :=
    gathering.offer_enabled _ (Offer.mk "extra_entry_points") [config.extraEntryPoints]
  simp only [collect, Gathering.read_enabled, Gathering.offer_enabled, extra]
  simp only [Gathering.offer_eq, Gathering.behind_behind]
  rfl

/-! Both phases. -/

structure Groundwork where
  regions : List Region
  seeds : SeedSet
  issues : List Issue
deriving DecidableEq, Repr

/-- What a census has found before it decodes anything. -/
def Layout.groundwork (layout : Layout) (config : Config) (source : Source) : Groundwork × Source :=
  let (found, source) := layout.regions config source
  let (seeds, source) := layout.seeds config found.regions source
  ({ regions := found.regions, seeds := seeds.set, issues := found.issues ++ seeds.issues }, source)

/-! The two ways through a census. -/

namespace Layout

/-- What a report says of a container whatever is decoded in it. -/
def draft (layout : Layout) (ground : Groundwork) : Report.Draft :=
  (((Report.Draft.setFormat {} layout.format).setArchitecture layout.architecture).setBitness
    layout.bitness).setRegions ground.regions

section Sample
variable {κ φ : Type} [DecidableEq φ] (layout : Layout) (decoder : Decoder κ φ) (name : φ → String) (config : Config)
  (control : Control) (source : Source)

theorem sample_eq :
    let ground := (layout.groundwork config source).1
    let log := IssueLog.record config.maxIssues.toNat ground.issues
    let run := traverse (layout.setting decoder config control ground.regions log) ground.seeds.addresses
    layout.sample decoder name config control source =
      ({ report := ((((layout.draft ground).addTraversal name run.totals run.outcome).setSeeds
          ground.seeds.summary).setIssues run.log).build
         run }, (layout.groundwork config source).2) := by
  simp only [sample, resolve_eq, collect_eq, groundwork, IssueLog.record_append]
  rfl

theorem sample_run :
    let ground := (layout.groundwork config source).1
    let log := IssueLog.record config.maxIssues.toNat ground.issues
    (layout.sample decoder name config control source).1.run =
      traverse (layout.setting decoder config control ground.regions log) ground.seeds.addresses := by
  rw [sample_eq]

theorem sample_report :
    let ground := (layout.groundwork config source).1
    let census := (layout.sample decoder name config control source).1
    census.report = ((((layout.draft ground).addTraversal name census.run.totals census.run.outcome).setSeeds
      ground.seeds.summary).setIssues census.run.log).build := by
  rw [sample_eq]

end Sample

theorem survey_eq (layout : Layout) (config : Config) (reason : Fault) (source : Source) :
    let ground := (layout.groundwork config source).1
    layout.survey config reason source =
      ((((layout.draft ground).setSeeds ground.seeds.summary).setIssues (IssueLog.record config.maxIssues.toNat
          (⟨.unsupportedArchitecture, reason.message⟩ :: ground.issues))).build,
        (layout.groundwork config source).2) := by
  simp only [survey, resolve_eq, collect_eq, groundwork, ← List.cons_append, IssueLog.record_append]
  rfl

end Layout

end IsaCensus
