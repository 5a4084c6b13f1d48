import IsaCensus.Proofs.Requests
import IsaCensus.Proofs.SeedFilter
import IsaCensus.Proofs.TableReading

/-! A table of seeds that fails as a whole. It has no bytes in the file, its bytes are refused, or
its version or encoding is not understood. Such a table offers nothing, leaves one issue and does
not use up the source, so all the other sources of seeds come to the same as if the layout did not
name the table. -/

namespace IsaCensus

namespace Unwind

theorem runtimeFunctionStarts_fault {data : Bytes} {limit : Nat} {fault : Fault}
    (told : (runtimeFunctionStarts data limit).fault = some fault) : fault.isEncoding = false := by
  simp only [runtimeFunctionStarts, Option.ite_none_right_eq_some] at told
  obtain ⟨_, told⟩ := told
  cases told
  rfl

end Unwind

/-- A table that is refused for its version or an encoding gives no starts. -/
theorem UnwindTable.starts_refused {table : UnwindTable} {layout : Layout} {limit : Nat} {bytes : Bytes}
    {fault : Unwind.Fault} (told : (table.starts layout limit bytes).fault = some fault)
    (encoding : fault.isEncoding = true) : (table.starts layout limit bytes).starts = [] := by
  unfold starts at told ⊢
  cases kind : table.kind with
  | frameHeader =>
    simp only [kind] at told
    exact Unwind.frameHeaderStarts_refused told encoding
  | runtimeFunctions =>
    simp only [kind] at told
    cases encoding.symm.trans (Unwind.runtimeFunctionStarts_fault told)

/-! A table that fails, and what is read of it then. -/

namespace Reading

variable {layout : Layout} {name : String} {address : UInt64} {length : UInt64 → UInt64} {decode : Bytes → Reading}
  {source : Source}

theorem ofTable_unmapped (nowhere : layout.fileOffset? address = none) :
    ofTable layout name address length decode source =
      (failed name ("address " ++ Text.hex address.toNat ++ " has no file data"), source) := by
  simp only [ofTable, nowhere]

theorem ofTable_refused {offset remaining : UInt64} {fault : ReadFault}
    (mapped : layout.fileOffset? address = some (offset, remaining))
    (refusal : (source.read offset (length remaining)).1 = .error fault) :
    ofTable layout name address length decode source = (failed name fault.message, source) := by
  simp only [ofTable, mapped, Source.read_refused refusal]

end Reading

/-- A table that seeds are read from. -/
inductive SeedTable
  | pointers (array : PointerArray)
  | unwind (table : UnwindTable)

namespace SeedTable

def name : SeedTable → String
  | .pointers array => array.name
  | .unwind table => table.name

def address : SeedTable → UInt64
  | .pointers array => array.address
  | .unwind table => table.address

def enabled (config : Config) : SeedTable → Bool
  | .pointers _ => config.sources.pointerArrays
  | .unwind _ => config.sources.unwindTables

/-- The number of bytes to read, when so many remain. -/
def wanted (layout : Layout) (config : Config) : SeedTable → UInt64 → UInt64
  | .pointers array => array.wanted layout.pointerSize config.maxPointerArrayEntries
  | .unwind table => min table.size

def reading (layout : Layout) (config : Config) : SeedTable → Source → Reading × Source
  | .pointers array => array.reading layout config
  | .unwind table => table.reading layout config

/-- The table fails as a whole, with an issue. A table whose bytes are not understood was read, so
it is only counted as one that uses nothing up if the source has no budget. -/
inductive Fails (layout : Layout) (config : Config) (source : Source) : SeedTable → Issue → Prop
  | unmapped {table} (nowhere : layout.fileOffset? table.address = none) :
      Fails layout config source table
        ⟨.seedSource, table.name ++ ": " ++ ("address " ++ Text.hex table.address.toNat ++ " has no file data")⟩
  | refused {table offset remaining fault} (mapped : layout.fileOffset? table.address = some (offset, remaining))
      (refusal : (source.read offset (table.wanted layout config remaining)).1 = .error fault) :
      Fails layout config source table ⟨.seedSource, table.name ++ ": " ++ fault.message⟩
  | rejected {table : UnwindTable} {offset remaining bytes fault} (unlimited : source.budget = none)
      (mapped : layout.fileOffset? table.address = some (offset, remaining))
      (granted : (source.read offset (min table.size remaining)).1 = .ok bytes)
      (told : (table.starts layout config.maxUnwindEntries.toNat bytes).fault = some fault)
      (encoding : fault.isEncoding = true) :
      Fails layout config source (.unwind table) ⟨.unsupportedEncoding, table.name ++ ": " ++ fault.message⟩

variable {layout : Layout} {config : Config} {source : Source} {issue : Issue}

/-- A table that fails offers nothing, tells of it once, and leaves the source as it was. -/
theorem Fails.reading {table : SeedTable} (fails : Fails layout config source table issue) :
    table.reading layout config source = ({ offer := ⟨table.name, []⟩, issue := some issue }, source) := by
  cases fails with
  | unmapped nowhere =>
    cases table with
    | pointers array => exact Reading.ofTable_unmapped nowhere
    | unwind table => exact Reading.ofTable_unmapped nowhere
  | refused mapped refusal =>
    cases table with
    | pointers array => exact Reading.ofTable_refused mapped refusal
    | unwind table => exact Reading.ofTable_refused mapped refusal
  | @rejected table offset remaining bytes fault unlimited mapped granted told encoding =>
    have read : source.read offset (min table.size remaining) = (.ok bytes, source) := by
      rw [← granted]
      simp only [Source.read, unlimited]
    simp only [SeedTable.reading, UnwindTable.reading, Reading.ofTable, mapped, read, told, Option.map_some,
      UnwindTable.starts_refused told encoding, UnwindTable.issue, encoding, if_true]
    rfl

end SeedTable

namespace Source

variable {α β : Type} {reading : α → Source → β × Source}

/-- An item that leaves the source as it found it can be taken out of a row of readings. -/
theorem readEach_without {items : List α} {index : Nat} {item : α} {value : β} {source turn : Source}
    (listed : items[index]? = some item) (reached : (source.readEach reading (items.take index)).2 = turn)
    (read : reading item turn = (value, turn)) :
    ∃ first last, first.length = index ∧ (source.readEach reading items).1 = first ++ value :: last ∧
      (source.readEach reading (items.eraseIdx index)).1 = first ++ last ∧
      (source.readEach reading items).2 = (source.readEach reading (items.eraseIdx index)).2 := by
  obtain ⟨inside, found⟩ := List.getElem?_eq_some_iff.mp listed
  have parts : items.take index ++ item :: items.drop (index + 1) = items := by
    rw [← found, List.getElem_cons_drop, List.take_append_drop]
  have whole := readEach_append reading (items.take index) (item :: items.drop (index + 1)) source
  have rest := readEach_append reading (items.take index) (items.drop (index + 1)) source
  rw [parts, reached, readEach, read] at whole
  rw [← List.eraseIdx_eq_take_drop_succ, reached] at rest
  refine ⟨(source.readEach reading (items.take index)).1,
    (turn.readEach reading (items.drop (index + 1))).1, ?_, ?_, ?_, ?_⟩
  · rw [length_readEach, List.length_take]
    omega
  · rw [whole]
  · rw [rest]
  · rw [whole, rest]

end Source

/-! An offer without candidates, seen by the collector. -/

namespace Space

variable (space : Space)

theorem offered_append (before after : List Offer) :
    space.offered (before ++ after) = space.offered before ++ space.offered after :=
  List.flatMap_append

/-- The accounts of offers that follow others. -/
def accountsBehind (past : List UInt64) (offers : List Offer) : List SeedSource :=
  offers.mapIdx fun place offer => space.account (past ++ space.offered (offers.take place)) offer

theorem accounts_append (before after : List Offer) :
    space.accounts (before ++ after) = space.accounts before ++ space.accountsBehind (space.offered before) after := by
  rw [accounts, List.mapIdx_append, accounts, accountsBehind]
  congr 1
  · apply List.mapIdx_eq_mapIdx_iff.mpr
    intro place inside
    rw [List.take_append_of_le_length (Nat.le_of_lt inside)]
  · apply List.mapIdx_eq_mapIdx_iff.mpr
    intro place _
    rw [Nat.add_comm, List.take_length_add_append, offered_append]

theorem accountsBehind_nothing (past : List UInt64) (name : String) (offers : List Offer) :
    space.accountsBehind past (⟨name, []⟩ :: offers) = { name } :: space.accountsBehind past offers := by
  rw [accountsBehind, List.mapIdx_cons]
  congr 1

theorem offered_without (before after : List Offer) (name : String) :
    space.offered (before ++ ⟨name, []⟩ :: after) = space.offered (before ++ after) := by
  rw [offered_append, offered_append]
  rfl

end Space

namespace SeedSet

variable (space : Space) (before after : List Offer) (name : String)

theorem addresses_without :
    (collect space (before ++ ⟨name, []⟩ :: after)).addresses = (collect space (before ++ after)).addresses := by
  rw [collect_addresses, collect_addresses, Space.offered_without]

theorem origin_without (address : UInt64) :
    (collect space (before ++ ⟨name, []⟩ :: after)).originOf? address =
      (collect space (before ++ after)).originOf? address := by
  have unnamed : List.find? (fun offer => (Offer.addresses space.domain offer).contains address) (⟨name, []⟩ :: after) =
      after.find? fun offer => (offer.addresses space.domain).contains address :=
    List.find?_cons_of_neg nofun
  rw [collect_origin, collect_origin, addresses_without, List.find?_append, List.find?_append, unnamed]

theorem sources_without :
    (collect space (before ++ ⟨name, []⟩ :: after)).summary.sources[before.length]? = some { name } ∧
    (collect space (before ++ ⟨name, []⟩ :: after)).summary.sources.eraseIdx before.length =
      (collect space (before ++ after)).summary.sources := by
  have length : (space.accounts before).length = before.length := List.length_mapIdx
  rw [collect_sources, collect_sources, Space.accounts_append, Space.accounts_append, Space.accountsBehind_nothing]
  refine ⟨?_, ?_⟩
  · rw [List.getElem?_append_right (Nat.le_of_eq length), length, Nat.sub_self]
    rfl
  · rw [List.eraseIdx_append_of_length_le (Nat.le_of_eq length), length, Nat.sub_self]
    rfl

theorem accepted_without :
    (collect space (before ++ ⟨name, []⟩ :: after)).summary.accepted =
      (collect space (before ++ after)).summary.accepted := by
  rw [collect_accepted, collect_added, collect_accepted, collect_added, addresses_without]

end SeedSet

/-- What is collected with a table that offers nothing, beside what is collected without it: the
table is one source more, with no candidates, and one issue more. The rest is the same, and so is
what is left of the bytes to read. -/
structure Seeds.Isolated (place : Nat) (name : String) (issue : Issue) (whole rest : Seeds × Source) : Prop where
  addresses : whole.1.set.addresses = rest.1.set.addresses
  origins : ∀ address, whole.1.set.originOf? address = rest.1.set.originOf? address
  listed : whole.1.set.summary.sources[place]? = some { name }
  others : whole.1.set.summary.sources.eraseIdx place = rest.1.set.summary.sources
  accepted : whole.1.set.summary.accepted = rest.1.set.summary.accepted
  issues : ∃ earlier later, whole.1.issues = earlier ++ issue :: later ∧ rest.1.issues = earlier ++ later
  source : whole.2 = rest.2

namespace Layout

/-- Where a layout lists a table of seeds. -/
inductive Slot
  | pointers (index : Nat)
  | unwind (index : Nat)

variable (layout : Layout) (config : Config)

def enabledArrays : List PointerArray := if config.sources.pointerArrays then layout.pointerArrays else []

def enabledSymbols : List Reading :=
  (if config.sources.symbols then layout.symbolTables.map layout.symbolOffer else []).map ({ offer := · })

def enabledTables : List UnwindTable := if config.sources.unwindTables then layout.unwindTables else []

/-- What the caller offers. -/
def extraReadings : List Reading :=
  (if config.sources.extraEntryPoints then [Offer.mk "extra_entry_points" config.extraEntryPoints] else []).map
    ({ offer := · })

/-- The table that is listed there, if its sort is enabled. -/
def tableAt? : Slot → Option SeedTable
  | .pointers index => (layout.enabledArrays config)[index]?.map .pointers
  | .unwind index => (layout.enabledTables config)[index]?.map .unwind

/-- The layout without one of its tables. -/
def without : Slot → Layout
  | .pointers index => { layout with pointerArrays := layout.pointerArrays.eraseIdx index }
  | .unwind index => { layout with unwindTables := layout.unwindTables.eraseIdx index }

/-- The source when the turn comes to a table. The arrays are read first, then the unwind tables. -/
def turn (source : Source) : Slot → Source
  | .pointers index =>
    (source.readEach (PointerArray.reading layout config) ((layout.enabledArrays config).take index)).2
  | .unwind index =>
    ((source.readEach (PointerArray.reading layout config) (layout.enabledArrays config)).2.readEach
      (UnwindTable.reading layout config) ((layout.enabledTables config).take index)).2

/-- The place of a table among the sources of seeds. The entry point comes first, and the symbols
stand between the arrays and the unwind tables. -/
def position : Slot → Nat
  | .pointers index => 1 + index
  | .unwind index => 1 + (layout.enabledArrays config).length + (layout.enabledSymbols config).length + index

section Without
variable (index : Nat) (slot : Slot)

@[simp] theorem entry_without : (layout.without slot).entry = layout.entry := by
  cases slot <;> rfl

@[simp] theorem domain_without : (layout.without slot).domain = layout.domain := by
  cases slot <;> rfl

@[simp] theorem arrayReading_without :
    PointerArray.reading (layout.without slot) config = PointerArray.reading layout config := by
  cases slot <;> rfl

@[simp] theorem unwindReading_without :
    UnwindTable.reading (layout.without slot) config = UnwindTable.reading layout config := by
  cases slot <;> rfl

@[simp] theorem enabledSymbols_without :
    (layout.without slot).enabledSymbols config = layout.enabledSymbols config := by
  cases slot <;> rfl

@[simp] theorem enabledArrays_without_pointers :
    (layout.without (.pointers index)).enabledArrays config = (layout.enabledArrays config).eraseIdx index := by
  unfold enabledArrays
  split <;> rfl

@[simp] theorem enabledTables_without_pointers :
    (layout.without (.pointers index)).enabledTables config = layout.enabledTables config := rfl

@[simp] theorem enabledArrays_without_unwind :
    (layout.without (.unwind index)).enabledArrays config = layout.enabledArrays config := rfl

@[simp] theorem enabledTables_without_unwind :
    (layout.without (.unwind index)).enabledTables config = (layout.enabledTables config).eraseIdx index := by
  unfold enabledTables
  split <;> rfl

end Without

variable {layout config}

/-- Reading does not change bytes in memory, so it is always their turn. -/
theorem turn_memory (content : Bytes) (slot : Slot) :
    layout.turn config (.memory content) slot = .memory content := by
  have arrays (items : List PointerArray) :
      ((Source.memory content).readEach (PointerArray.reading layout config) items).2 = .memory content := by
    rw [(Asks.readEach (layout.array_asks config) items).leaves, Source.answers_memory]
  have tables (items : List UnwindTable) :
      ((Source.memory content).readEach (UnwindTable.reading layout config) items).2 = .memory content := by
    rw [(Asks.readEach (layout.unwind_asks config) items).leaves, Source.answers_memory]
  cases slot with
  | pointers index => exact arrays _
  | unwind index =>
    rw [turn, arrays]
    exact tables _

theorem readings_eq (source : Source) : layout.readings config source =
    let arrays := source.readEach (PointerArray.reading layout config) (layout.enabledArrays config)
    let tables := arrays.2.readEach (UnwindTable.reading layout config) (layout.enabledTables config)
    ({ offer := ⟨"entry_point", [layout.entry]⟩ } :: arrays.1 ++ layout.enabledSymbols config ++ tables.1 ++
      extraReadings config, tables.2) := rfl

/-- Without a table that fails, everything else is read as it is with it. -/
theorem readings_without {source : Source} {slot : Slot} {table : SeedTable} {issue : Issue}
    (listed : layout.tableAt? config slot = some table)
    (fails : table.Fails layout config (layout.turn config source slot) issue) :
    ∃ before after : List Reading, before.length = layout.position config slot ∧
      (layout.readings config source).1 = before ++ { offer := ⟨table.name, []⟩, issue := some issue } :: after ∧
      ((layout.without slot).readings config source).1 = before ++ after ∧
      (layout.readings config source).2 = ((layout.without slot).readings config source).2 := by
  have read := fails.reading
  cases slot with
  | pointers index =>
    obtain ⟨array, found, rfl⟩ := Option.map_eq_some_iff.mp listed
    obtain ⟨first, last, length, whole, rest, left⟩ := Source.readEach_without found rfl read
    -- The unwind tables are read behind the arrays, but from a source that is the same either way.
    refine ⟨{ offer := ⟨"entry_point", [layout.entry]⟩ } :: first,
      last ++ layout.enabledSymbols config ++ ((source.readEach (PointerArray.reading layout config)
        (layout.enabledArrays config)).2.readEach (UnwindTable.reading layout config)
          (layout.enabledTables config)).1 ++ extraReadings config, ?_, ?_, ?_, ?_⟩
    · rw [List.length_cons, length, position, Nat.add_comm]
    · simp only [readings_eq, whole, List.cons_append, List.append_assoc]
    · simp only [readings_eq, entry_without, arrayReading_without, unwindReading_without, enabledSymbols_without,
        enabledArrays_without_pointers, enabledTables_without_pointers, rest, left, List.cons_append,
        List.append_assoc]
    · simp only [readings_eq, arrayReading_without, unwindReading_without, enabledArrays_without_pointers,
        enabledTables_without_pointers, left]
  | unwind index =>
    obtain ⟨table, found, rfl⟩ := Option.map_eq_some_iff.mp listed
    obtain ⟨first, last, length, whole, rest, left⟩ := Source.readEach_without found rfl read
    refine ⟨{ offer := ⟨"entry_point", [layout.entry]⟩ } :: (source.readEach (PointerArray.reading layout config)
      (layout.enabledArrays config)).1 ++ layout.enabledSymbols config ++ first, last ++ extraReadings config,
      ?_, ?_, ?_, ?_⟩
    · rw [List.length_append, List.length_append, List.length_cons, Source.length_readEach, length, position]
      omega
    · simp only [readings_eq, whole, List.cons_append, List.append_assoc]
    · simp only [readings_eq, entry_without, arrayReading_without, unwindReading_without, enabledSymbols_without,
        enabledArrays_without_unwind, enabledTables_without_unwind, rest, List.cons_append, List.append_assoc]
    · simp only [readings_eq, arrayReading_without, unwindReading_without, enabledArrays_without_unwind,
        enabledTables_without_unwind, left]

theorem seeds_isolated (regions : List Region) {source : Source} {slot : Slot} {table : SeedTable} {issue : Issue}
    (listed : layout.tableAt? config slot = some table)
    (fails : table.Fails layout config (layout.turn config source slot) issue) :
    Seeds.Isolated (layout.position config slot) table.name issue (layout.seeds config regions source)
      ((layout.without slot).seeds config regions source) := by
  obtain ⟨before, after, length, whole, rest, left⟩ := readings_without listed fails
  let space : Space := ⟨layout.domain, regions⟩
  have set : (layout.seeds config regions source).1.set =
      SeedSet.collect space (before.map Reading.offer ++ ⟨table.name, []⟩ :: after.map Reading.offer) := by
    simp only [seeds, whole, List.map_append, List.map_cons]
    rfl
  have remaining : ((layout.without slot).seeds config regions source).1.set =
      SeedSet.collect space (before.map Reading.offer ++ after.map Reading.offer) := by
    simp only [seeds, rest, List.map_append, domain_without]
    rfl
  have place : layout.position config slot = (before.map Reading.offer).length := by
    rw [List.length_map, length]
  obtain ⟨listed, others⟩ :=
    SeedSet.sources_without space (before.map Reading.offer) (after.map Reading.offer) table.name
  constructor
  · rw [set, remaining]
    exact SeedSet.addresses_without ..
  · intro address
    rw [set, remaining]
    exact SeedSet.origin_without ..
  · rw [set, place]
    exact listed
  · rw [set, remaining, place]
    exact others
  · rw [set, remaining]
    exact SeedSet.accepted_without ..
  · refine ⟨before.filterMap Reading.issue, after.filterMap Reading.issue, ?_, ?_⟩
    · simp only [seeds, whole, List.filterMap_append, List.filterMap_cons]
    · simp only [seeds, rest, List.filterMap_append]
  · exact left

/-- A table that fails does not disturb the other sources of seeds. With the table, the layout
yields the same seeds from the same sources as without it, and tells of the failure once. In memory
the table may stand anywhere; in a file, whose limit other reads use up, what counts is that it
fails when its turn comes. -/
theorem failed_table_isolated (layout : Layout) (config : Config) (regions : List Region) {slot : Slot}
    {table : SeedTable} (listed : layout.tableAt? config slot = some table) (issue : Issue) :
    (∀ content, table.Fails layout config (.memory content) issue →
      Seeds.Isolated (layout.position config slot) table.name issue
        (layout.seeds config regions (.memory content))
        ((layout.without slot).seeds config regions (.memory content))) ∧
    (∀ source, table.Fails layout config (layout.turn config source slot) issue →
      Seeds.Isolated (layout.position config slot) table.name issue
        (layout.seeds config regions source) ((layout.without slot).seeds config regions source)) := by
  refine ⟨?_, ?_⟩
  · intro content fails
    rw [← turn_memory content slot] at fails
    exact seeds_isolated regions listed fails
  · intro source fails
    exact seeds_isolated regions listed fails

/-- Two pointers, the header of a frame table in a version that does not exist, and a return. -/
def faultyImage : Bytes :=
  #[0x14, 0x10, 0, 0, 0, 0, 0, 0, 0, 0, 0, 0, 0, 0, 0, 0, 2, 0, 0, 0, 0xc3]

def faultyLayout : Layout where
  format := .elf
  architecture := .x86_64
  entry := 0x1014
  segments := [{
    label := "LOAD[0]"
    base := 0x1000
    fileOffset := some 0
    length := 21
    permissions := { read := true, execute := true } }]
  pointerArrays := [{ name := "init_array", address := 0x1000, size := some 16 },
    { name := "fini_array", address := 0x1000, size := some 8 }]
  unwindTables := [{ kind := .frameHeader, address := 0x1010, size := 4 }]

def faultyRegions : List Region := [{ base := 0x1000, bytes := faultyImage }]

/-- The frame table is not understood, and of the arrays only the second fits in what may be read. -/
theorem faultyLayout_isolated :
    faultyLayout.tableAt? {} (.unwind 0) = some (.unwind { kind := .frameHeader, address := 0x1010, size := 4 }) ∧
    faultyLayout.tableAt? {} (.pointers 0) =
      some (.pointers { name := "init_array", address := 0x1000, size := some 16 }) ∧
    Seeds.Isolated 3 "eh_frame_hdr"
      ⟨.unsupportedEncoding, "eh_frame_hdr" ++ ": " ++ (Unwind.Fault.unsupportedVersion 2).message⟩
      (faultyLayout.seeds {} faultyRegions (.memory faultyImage))
      ((faultyLayout.without (.unwind 0)).seeds {} faultyRegions (.memory faultyImage)) ∧
    Seeds.Isolated 1 "init_array"
      ⟨.seedSource, "init_array" ++ ": " ++ (ReadFault.readLimitExceeded 8 0).message⟩
      (faultyLayout.seeds {} faultyRegions (.opened faultyImage 8 0))
      ((faultyLayout.without (.pointers 0)).seeds {} faultyRegions (.opened faultyImage 8 0)) := by
  have rejected : SeedTable.Fails faultyLayout {} (.memory faultyImage)
      (.unwind { kind := .frameHeader, address := 0x1010, size := 4 })
      ⟨.unsupportedEncoding, "eh_frame_hdr" ++ ": " ++ (Unwind.Fault.unsupportedVersion 2).message⟩ := by
    have mapped : faultyLayout.fileOffset? 0x1010 = some (0x10, 5) := by decide
    have granted : ((Source.memory faultyImage).read 0x10 (min 4 5)).1 = .ok #[2, 0, 0, 0] := rfl
    exact .rejected rfl mapped granted (by decide) rfl
  have refused : SeedTable.Fails faultyLayout {} (.opened faultyImage 8 0)
      (.pointers { name := "init_array", address := 0x1000, size := some 16 })
      ⟨.seedSource, "init_array" ++ ": " ++ (ReadFault.readLimitExceeded 8 0).message⟩ := by
    have mapped : faultyLayout.fileOffset? 0x1000 = some (0, 21) := by decide
    have wanted : SeedTable.wanted faultyLayout {}
        (.pointers { name := "init_array", address := 0x1000, size := some 16 }) 21 = 16 := by decide
    refine .refused mapped ?_
    rw [wanted]
    change ((Source.opened faultyImage 8 0).answer ⟨0, 16⟩).1 = _
    rw [Source.answer_refused (by decide) (by decide)]
  have table : faultyLayout.tableAt? {} (.unwind 0) =
      some (.unwind { kind := .frameHeader, address := 0x1010, size := 4 }) := rfl
  have array : faultyLayout.tableAt? {} (.pointers 0) =
      some (.pointers { name := "init_array", address := 0x1000, size := some 16 }) := rfl
  exact ⟨table, array, (failed_table_isolated faultyLayout {} faultyRegions table _).1 faultyImage rejected,
    (failed_table_isolated faultyLayout {} faultyRegions array _).2 (.opened faultyImage 8 0) refused⟩

end Layout

end IsaCensus
