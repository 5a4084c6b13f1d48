import Mathlib.Algebra.GroupWithZero.Nat
import IsaCensus.Container.Image
import IsaCensus.Decode.X86.Table
import IsaCensus.Proofs.Findings

/-! What a census reads. Which parts of a source it asks for depends on the layout and on the
limits alone, never on what was read before, and it takes nothing from the source but the
answers. So a census of a file is the census of its bytes in memory, as long as the file
answers as memory does, and that it does until the bytes asked for exceed its budget. -/

namespace IsaCensus

structure Request where
  start : UInt64
  length : UInt64
deriving DecidableEq, Repr

/-- The part of the content that a request covers. -/
def Request.found (content : Bytes) (request : Request) : Bytes :=
  content.window request.start.toNat request.length.toNat

def Request.total (content : Bytes) (requests : List Request) : Nat :=
  (requests.map fun request => (request.found content).size).sum

namespace Source

def answer (request : Request) (source : Source) : Except ReadFault Bytes × Source :=
  source.read request.start request.length

/-- The answers to requests that are made one after the other. -/
def answers (requests : List Request) (source : Source) : List (Except ReadFault Bytes) × Source :=
  source.readEach answer requests

/-- No request meets the limit on the bytes that may be read. -/
def Unrefused (source : Source) (requests : List Request) : Prop :=
  ∀ limit current, Except.error (ReadFault.readLimitExceeded limit current) ∉ (source.answers requests).1

theorem answers_append (first second : List Request) (source : Source) :
    source.answers (first ++ second) =
      ((source.answers first).1 ++ ((source.answers first).2.answers second).1,
        ((source.answers first).2.answers second).2) :=
  readEach_append answer first second source

theorem length_answers (requests : List Request) (source : Source) :
    (source.answers requests).1.length = requests.length :=
  length_readEach answer requests source

theorem answers_memory (content : Bytes) (requests : List Request) :
    (memory content).answers requests = (requests.map fun request => .ok (request.found content), memory content) := by
  induction requests with
  | nil => rfl
  | cons request rest ih =>
    simp only [answers] at ih
    simp only [answers, readEach, answer, read_memory, ih, List.map_cons, Request.found]

/-- A file of which some bytes have been read. -/
def opened (content : Bytes) (limit spent : Nat) : Source := { content, budget := some { limit, spent } }

section Opened
variable {content : Bytes} {limit spent : Nat}

theorem answer_opened (request : Request) : (opened content limit spent).answer request =
    if (request.found content).size = 0 then (.ok (request.found content), opened content limit spent)
    else if limit < spent + (request.found content).size then
      (.error (.readLimitExceeded limit spent), opened content limit spent)
    else (.ok (request.found content), opened content limit (spent + (request.found content).size)) := rfl

theorem answer_granted {request : Request} (fits : spent + (request.found content).size ≤ limit) :
    (opened content limit spent).answer request =
      (.ok (request.found content), opened content limit (spent + (request.found content).size)) := by
  rw [answer_opened]
  by_cases empty : (request.found content).size = 0
  · rw [if_pos empty, empty, Nat.add_zero]
  · rw [if_neg empty, if_neg (Nat.not_lt_of_le fits)]

theorem answer_refused {request : Request} (within : spent ≤ limit)
    (exceeds : limit < spent + (request.found content).size) :
    (opened content limit spent).answer request =
      (.error (.readLimitExceeded limit spent), opened content limit spent) := by
  have occupied : (request.found content).size ≠ 0 := by omega
  rw [answer_opened, if_neg occupied, if_pos exceeds]

theorem answers_granted {requests : List Request} (fits : spent + Request.total content requests ≤ limit) :
    ((opened content limit spent).answers requests).1 =
      requests.map fun request => .ok (request.found content) := by
  induction requests generalizing spent with
  | nil => rfl
  | cons request rest ih =>
    simp only [Request.total, List.map_cons, List.sum_cons] at fits
    have now : spent + (request.found content).size ≤ limit := by omega
    have later : spent + (request.found content).size + Request.total content rest ≤ limit := by
      rw [Request.total]
      omega
    have answered := ih later
    simp only [answers] at answered
    simp only [answers, readEach, answer_granted now, answered, List.map_cons]

/-- A file that was opened refuses no request just if its limit covers all bytes that are asked for. -/
theorem unrefused_iff (within : spent ≤ limit) (requests : List Request) :
    (opened content limit spent).Unrefused requests ↔ spent + Request.total content requests ≤ limit := by
  refine ⟨?_, ?_⟩
  · intro unrefused
    induction requests generalizing spent with
    | nil => exact within
    | cons request rest ih =>
      simp only [Unrefused, answers, readEach, List.mem_cons, not_or] at unrefused
      by_cases fits : spent + (request.found content).size ≤ limit
      · have later := ih fits fun limit current => by
          have unmet := (unrefused limit current).2
          rw [answer_granted fits] at unmet
          exact unmet
        simp only [Request.total, List.map_cons, List.sum_cons] at later ⊢
        omega
      · have met := (unrefused limit spent).1
        rw [answer_refused within (Nat.lt_of_not_le fits)] at met
        exact absurd rfl met
  · intro fits limit current refused
    rw [answers_granted fits] at refused
    obtain ⟨request, _, granted⟩ := List.mem_map.mp refused
    cases granted

end Opened

end Source

section Asking
variable {α β γ : Type}

/-- A reading makes these requests: their answers decide what it yields, and it leaves the source
as they leave it. -/
structure Asks (reading : Source → β × Source) (requests : List Request) : Prop where
  decided : ∀ source other, (source.answers requests).1 = (other.answers requests).1 →
    (reading source).1 = (reading other).1
  leaves : ∀ source, (reading source).2 = (source.answers requests).2

namespace Asks

theorem nothing (value : β) : Asks (fun source => (value, source)) [] :=
  ⟨fun _ _ _ => rfl, fun _ => rfl⟩

theorem answer (request : Request) : Asks (Source.answer request) [request] :=
  ⟨fun _ _ same => (List.cons.inj same).1, fun _ => rfl⟩

/-- What is made of the value of a reading needs no more requests. -/
theorem map {reading : Source → β × Source} {later : Source → γ × Source} {requests : List Request}
    (asks : Asks reading requests)
    (made : ∀ source other, (reading source).1 = (reading other).1 → (later source).1 = (later other).1)
    (rest : ∀ source, (later source).2 = (reading source).2) : Asks later requests :=
  ⟨fun source other same => made source other (asks.decided source other same),
    fun source => (rest source).trans (asks.leaves source)⟩

theorem pair {first : Source → β × Source} {second : β → Source → γ × Source} {early late : List Request}
    (one : Asks first early) (other : ∀ value, Asks (second value) late) :
    Asks (fun source => (((first source).1, (second (first source).1 (first source).2).1),
      (second (first source).1 (first source).2).2)) (early ++ late) := by
  refine ⟨?_, ?_⟩
  · intro left right same
    rw [Source.answers_append, Source.answers_append] at same
    have lengths : (left.answers early).1.length = (right.answers early).1.length := by
      rw [Source.length_answers, Source.length_answers]
    obtain ⟨before, behind⟩ := List.append_inj same lengths
    rw [one.decided left right before, one.leaves, one.leaves, (other _).decided _ _ behind]
  · intro source
    rw [(other _).leaves, one.leaves, Source.answers_append]

theorem readEach {reading : α → Source → β × Source} {requests : α → List Request}
    (each : ∀ item, Asks (reading item) (requests item)) (items : List α) :
    Asks (Source.readEach reading items) (items.flatMap requests) := by
  induction items with
  | nil => exact nothing []
  | cons item rest ih =>
    rw [List.flatMap_cons]
    apply ((each item).pair fun _ => ih).map
    · intro source other same
      obtain ⟨first, others⟩ := Prod.mk.inj same
      exact congrArg₂ List.cons first others
    · exact fun _ => rfl

end Asks

end Asking

/-! The requests of a census. -/

def MappedRange.requests (cap : UInt64) (range : MappedRange) : List Request :=
  range.fileOffset.toList.map fun offset => ⟨offset, min range.length cap⟩

theorem MappedRange.extract_asks (domain : Domain) (cap : UInt64) (range : MappedRange) :
    Asks (range.extract domain cap) (range.requests cap) := by
  unfold requests extract
  cases range.fileOffset with
  | none => exact .nothing ({} : Extraction)
  | some offset =>
    apply (Asks.answer ⟨offset, min range.length cap⟩).map
    · exact fun source other same => congrArg (range.extraction domain offset) same
    · exact fun _ => rfl

namespace Layout

def tableRequests (layout : Layout) (address : UInt64) (length : UInt64 → UInt64) : List Request :=
  (layout.fileOffset? address).toList.map fun (offset, remaining) => ⟨offset, length remaining⟩

theorem ofTable_asks (layout : Layout) (name : String) (address : UInt64) (length : UInt64 → UInt64)
    (decode : Bytes → Reading) :
    Asks (Reading.ofTable layout name address length decode) (layout.tableRequests address length) := by
  unfold tableRequests Reading.ofTable
  cases layout.fileOffset? address with
  | none => exact .nothing _
  | some place =>
    obtain ⟨offset, remaining⟩ := place
    apply (Asks.answer ⟨offset, length remaining⟩).map
    · intro source other same
      simp only [Source.answer] at same ⊢
      rcases read : source.read offset (length remaining) with ⟨answer, rest⟩
      rcases again : other.read offset (length remaining) with ⟨answer', rest'⟩
      rw [read, again] at same
      cases same
      cases answer <;> rfl
    · intro source
      simp only [Source.answer]
      rcases source.read offset (length remaining) with ⟨answer, rest⟩
      cases answer <;> rfl

def arrayRequests (layout : Layout) (config : Config) : List Request :=
  (if config.sources.pointerArrays then layout.pointerArrays else []).flatMap fun array =>
    layout.tableRequests array.address (array.wanted layout.pointerSize config.maxPointerArrayEntries)

def unwindRequests (layout : Layout) (config : Config) : List Request :=
  (if config.sources.unwindTables then layout.unwindTables else []).flatMap fun table =>
    layout.tableRequests table.address (min table.size)

/-- Everything that a census asks of its source, in this order. -/
def requests (layout : Layout) (config : Config) : List Request :=
  layout.code.2.flatMap (MappedRange.requests config.maxRegionBytes) ++
    (layout.arrayRequests config ++ layout.unwindRequests config)

theorem regions_asks (layout : Layout) (config : Config) :
    Asks (layout.regions config) (layout.code.2.flatMap (MappedRange.requests config.maxRegionBytes)) := by
  apply (Asks.readEach (MappedRange.extract_asks layout.domain config.maxRegionBytes) layout.code.2).map
  · intro source other same
    simp only [regions, same]
  · exact fun _ => rfl

theorem array_asks (layout : Layout) (config : Config) (array : PointerArray) :
    Asks (array.reading layout config) (layout.tableRequests array.address
      (array.wanted layout.pointerSize config.maxPointerArrayEntries)) :=
  layout.ofTable_asks array.name array.address _ _

theorem unwind_asks (layout : Layout) (config : Config) (table : UnwindTable) :
    Asks (table.reading layout config) (layout.tableRequests table.address (min table.size)) :=
  layout.ofTable_asks table.name table.address _ _

theorem readings_asks (layout : Layout) (config : Config) :
    Asks (layout.readings config) (layout.arrayRequests config ++ layout.unwindRequests config) := by
  have arrays := Asks.readEach (layout.array_asks config)
    (if config.sources.pointerArrays then layout.pointerArrays else [])
  have tables := Asks.readEach (layout.unwind_asks config)
    (if config.sources.unwindTables then layout.unwindTables else [])
  apply (arrays.pair fun _ => tables).map
  · intro source other same
    obtain ⟨first, second⟩ := Prod.mk.inj same
    simp only [readings, first, second]
  · exact fun _ => rfl

theorem seeds_asks (layout : Layout) (config : Config) (regions : List Region) :
    Asks (layout.seeds config regions) (layout.arrayRequests config ++ layout.unwindRequests config) := by
  apply (layout.readings_asks config).map
  · intro source other same
    simp only [seeds, same]
  · exact fun _ => rfl

theorem groundwork_asks (layout : Layout) (config : Config) :
    Asks (layout.groundwork config) (layout.requests config) := by
  apply ((layout.regions_asks config).pair fun found => layout.seeds_asks config found.regions).map
  · intro source other same
    obtain ⟨found, seeds⟩ := Prod.mk.inj same
    rw [found] at seeds
    simp only [groundwork, found, seeds]
  · exact fun _ => rfl

theorem sample_asks {κ φ : Type} [DecidableEq φ] (layout : Layout) (decoder : Decoder κ φ) (name : φ → String)
    (config : Config) (control : Control) :
    Asks (layout.sample decoder name config control) (layout.requests config) := by
  apply (layout.groundwork_asks config).map
  · intro source other same
    rw [sample_eq, sample_eq, same]
  · intro source
    rw [sample_eq]

theorem survey_asks (layout : Layout) (config : Config) (reason : Fault) :
    Asks (layout.survey config reason) (layout.requests config) := by
  apply (layout.groundwork_asks config).map
  · intro source other same
    rw [survey_eq, survey_eq, same]
  · intro source
    rw [survey_eq]

theorem analyze_asks {φ : Type} [DecidableEq φ] (layout : Layout) (engine : X86.Engine φ) (config : Config)
    (control : Control) : Asks (layout.analyze engine config control) (layout.requests config) := by
  unfold analyze
  cases X86.modeFor layout with
  | ok mode =>
    apply (layout.sample_asks (engine.decoder mode) engine.name config control).map
    · intro source other same
      simp only [same]
    · exact fun _ => rfl
  | error reason =>
    apply (layout.survey_asks config reason).map
    · intro source other same
      simp only [same]
    · exact fun _ => rfl

end Layout

/-- The census of a file is that of its bytes in memory, report and progress and every fault of the
container included, unless a read meets the limit. A file above its size limit is not looked into.
All this is so whichever parser takes the container apart and whichever engine knows its instructions. -/
theorem file_read_as_memory {φ : Type} [DecidableEq φ] (parse : Bytes → Except Fault Layout) (engine : X86.Engine φ)
    (image : Bytes) (config : Config) (control : Control) :
    (config.io.maxFileSize.toNat < image.size →
      analyzeFile parse engine image config control =
        .error (.io (.fileTooLarge config.io.maxFileSize.toNat image.size))) ∧
    (image.size ≤ config.io.maxFileSize.toNat →
      (∀ layout, parse image = .ok layout →
        (Source.opened image config.io.maxReadBytes.toNat 0).Unrefused (layout.requests config)) →
      analyzeFile parse engine image config control = analyzeBytes parse engine image config control) ∧
    (∀ layout : Layout, Asks (layout.analyze engine config control) (layout.requests config) ∧
      ((Source.opened image config.io.maxReadBytes.toNat 0).Unrefused (layout.requests config) ↔
        Request.total image (layout.requests config) ≤ config.io.maxReadBytes.toNat)) := by
  have covered (layout : Layout) : (Source.opened image config.io.maxReadBytes.toNat 0).Unrefused
        (layout.requests config) ↔ Request.total image (layout.requests config) ≤ config.io.maxReadBytes.toNat := by
    rw [Source.unrefused_iff (Nat.zero_le _), Nat.zero_add]
  refine ⟨?_, ?_, fun layout => ⟨layout.analyze_asks engine config control, covered layout⟩⟩
  · intro large
    simp only [analyzeFile, Source.openFile, if_pos large]
    rfl
  · intro fits unrefused
    have opened : Source.openFile config.io image = .ok (.opened image config.io.maxReadBytes.toNat 0) :=
      if_neg (Nat.not_lt_of_le fits)
    simp only [analyzeFile, opened, analyzeBytes]
    cases parsed : parse image with
    | error fault => rfl
    | ok layout =>
      have granted := (covered layout).mp (unrefused layout parsed)
      have same := (layout.analyze_asks engine config control).decided (.opened image config.io.maxReadBytes.toNat 0)
        (.memory image) (by rw [Source.answers_granted (by omega), Source.answers_memory])
      exact congrArg Except.ok same

/-- A file of one segment, which holds one byte: a return. -/
def returningFile : Bytes :=
  #[0x7f, 0x45, 0x4c, 0x46, 2, 1, 1, 0, 0, 0, 0, 0, 0, 0, 0, 0,
    2, 0, 62, 0, 1, 0, 0, 0, 0x78, 0, 0x40, 0, 0, 0, 0, 0,
    64, 0, 0, 0, 0, 0, 0, 0, 0, 0, 0, 0, 0, 0, 0, 0,
    0, 0, 0, 0, 64, 0, 56, 0, 1, 0, 0, 0, 0, 0, 0, 0,
    1, 0, 0, 0, 5, 0, 0, 0, 0x78, 0, 0, 0, 0, 0, 0, 0,
    0x78, 0, 0x40, 0, 0, 0, 0, 0, 0x78, 0, 0x40, 0, 0, 0, 0, 0,
    1, 0, 0, 0, 0, 0, 0, 0, 1, 0, 0, 0, 0, 0, 0, 0,
    0, 16, 0, 0, 0, 0, 0, 0, 0xc3]

def returningLayout : Layout where
  format := .elf
  architecture := .x86_64
  entry := 0x400078
  segments := [{
    label := "LOAD[0]"
    base := 0x400078
    fileOffset := some 0x78
    length := 1
    permissions := { read := true, execute := true } }]

theorem returningFile_parse : (Layout.parse returningFile).toOption = some returningLayout := by
  decide +kernel

/-- Limits that the file meets exactly: it may be this long, and its one byte of code may be read. -/
def exactLimits : ReadLimits := { maxFileSize := 121, maxReadBytes := 1 }

theorem returningFile_read_as_memory :
    returningFile.size ≤ exactLimits.maxFileSize.toNat ∧
    (∀ layout, Layout.parse returningFile = .ok layout →
      (Source.opened returningFile exactLimits.maxReadBytes.toNat 0).Unrefused
        (layout.requests { io := exactLimits })) ∧
    analyzeFile Layout.parse X86.tables returningFile { io := exactLimits } { observed := true } =
      analyzeBytes Layout.parse X86.tables returningFile { io := exactLimits } { observed := true } ∧
    analyzeFile Layout.parse X86.tables returningFile { io := { maxFileSize := 120 } } { observed := true } =
      .error (.io (.fileTooLarge 120 121)) := by
  obtain ⟨_, alike, whole⟩ :=
    file_read_as_memory Layout.parse X86.tables returningFile { io := exactLimits } { observed := true }
  obtain ⟨large, _⟩ :=
    file_read_as_memory Layout.parse X86.tables returningFile { io := { maxFileSize := 120 } } { observed := true }
  have length : returningFile.size = 121 := by decide +kernel
  rw [length] at large
  have unrefused : ∀ layout, Layout.parse returningFile = .ok layout →
      (Source.opened returningFile exactLimits.maxReadBytes.toNat 0).Unrefused
        (layout.requests { io := exactLimits }) := by
    intro layout parsed
    have known := returningFile_parse
    rw [parsed] at known
    cases known
    exact (whole returningLayout).2.mpr (by decide +kernel)
  have fits : returningFile.size ≤ exactLimits.maxFileSize.toNat := Nat.le_of_eq length
  exact ⟨fits, unrefused, alike fits unrefused, large (by decide)⟩

end IsaCensus
