import IsaCensus.Container.Layout
import IsaCensus.Source
import IsaCensus.Issue
import IsaCensus.Seed.Collector
import IsaCensus.Unwind.Table

/-! Where seeds come from: the entry point, arrays of code pointers, function symbols, the
function starts in unwind tables, and addresses named by the caller. A source that cannot
be read offers nothing and leaves an issue. -/

namespace IsaCensus

structure Reading where
  offer : Offer
  issue : Option Issue := none
deriving DecidableEq, Repr

namespace Reading

def failed (name text : String) : Reading :=
  { offer := ⟨name, []⟩, issue := some ⟨.seedSource, name ++ ": " ++ text⟩ }

/-- Reads a table at an address of the layout. `length` gives how many bytes are wanted
of those that remain, and `decode` what they offer. -/
def ofTable (layout : Layout) (name : String) (address : UInt64) (length : UInt64 → UInt64)
    (decode : Bytes → Reading) (source : Source) : Reading × Source :=
  match layout.fileOffset? address with
  | none => (failed name ("address " ++ Text.hex address.toNat ++ " has no file data"), source)
  | some (offset, remaining) =>
    match source.read offset (length remaining) with
    | (.error fault, source) => (failed name fault.message, source)
    | (.ok bytes, source) => (decode bytes, source)

end Reading

namespace PointerArray

/-- The addresses in the words of an array. A zero ends an array without a size, and is
kept as padding in one that has a size. -/
def candidates (array : PointerArray) (words : List UInt64) : List UInt64 :=
  match array.size with
  | some _ => words.map fun word => if word = 0 then 0 else word - array.bias
  | none => (words.takeWhile (· ≠ 0)).map (· - array.bias)

/-- The number of bytes to read, when so many remain and an entry limit holds. -/
def wanted (array : PointerArray) (pointerSize : Nat) (limit remaining : UInt64) : UInt64 :=
  let cap := (min (limit.toNat * pointerSize) (UInt64.size - 1)).toUInt64
  min (min (array.size.getD remaining) remaining) cap

def reading (layout : Layout) (config : Config) (array : PointerArray) (source : Source) : Reading × Source :=
  Reading.ofTable layout array.name array.address
    (array.wanted layout.pointerSize config.maxPointerArrayEntries)
    (fun bytes =>
      let words := (bytes.records layout.pointerSize).map fun word =>
        (layout.order.value word.toList).toUInt64
      { offer := ⟨array.name, array.candidates words⟩ })
    source

end PointerArray

namespace Layout

/-- The symbol tables in the order in which symbols first name them. -/
def symbolTables (layout : Layout) : List String :=
  layout.symbols.foldl (fun tables symbol =>
    if symbol.table ∈ tables then tables else tables ++ [symbol.table]) []

/-- The address of a symbol, which may be counted from its section. -/
def symbolAddress (layout : Layout) (symbol : Symbol) (sectionIndex : Nat) : UInt64 :=
  if layout.symbolsAreSectionRelative then
    symbol.value + ((layout.sectionAt? sectionIndex).map MappedRange.base).getD 0
  else symbol.value

/-- The seed that a symbol stands for, if it is a function with a place. -/
def symbolSeed? (layout : Layout) (symbol : Symbol) : Option UInt64 := do
  guard (symbol.kind = .function ∧ symbol.isDefined ∧ symbol.value ≠ 0)
  let sectionIndex ← symbol.sectionIndex
  return layout.symbolAddress symbol sectionIndex

def symbolOffer (layout : Layout) (table : String) : Offer :=
  ⟨table, (layout.symbols.filter (·.table == table)).filterMap layout.symbolSeed?⟩

end Layout

namespace UnwindTable

def name (table : UnwindTable) : String :=
  match table.kind with
  | .frameHeader => "eh_frame_hdr"
  | .runtimeFunctions => "pdata"

def starts (layout : Layout) (limit : Nat) (table : UnwindTable) (bytes : Bytes) : Unwind.StartTable :=
  match table.kind with
  | .frameHeader =>
    Unwind.frameHeaderStarts ⟨layout.order, table.address, layout.pointerSize.toUInt8⟩ bytes limit
  | .runtimeFunctions => Unwind.runtimeFunctionStarts bytes limit

def issue (table : UnwindTable) (fault : Unwind.Fault) : Issue :=
  ⟨if fault.isEncoding then .unsupportedEncoding else .seedSource, table.name ++ ": " ++ fault.message⟩

def reading (layout : Layout) (config : Config) (table : UnwindTable) (source : Source) : Reading × Source :=
  Reading.ofTable layout table.name table.address (min table.size)
    (fun bytes =>
      let found := table.starts layout config.maxUnwindEntries.toNat bytes
      { offer := ⟨table.name, found.starts⟩, issue := found.fault.map table.issue })
    source

end UnwindTable

/-- What the sources asked so far have left behind, and what the next one is read from. -/
structure Gathering where
  collector : Collector
  log : IssueLog
  source : Source

namespace Gathering

def offer (gathering : Gathering) (offer : Offer) : Gathering :=
  { gathering with collector := gathering.collector.offer offer }

/-- Reads a table and offers what was found in it. -/
def read (gathering : Gathering) (reading : Source → Reading × Source) : Gathering :=
  let (found, source) := reading gathering.source
  { collector := gathering.collector.offer found.offer
    log := gathering.log.note found.issue
    source }

end Gathering

/-- Asks the enabled sources of a layout one after the other. The entry point is always asked, and first. -/
def Layout.collect (layout : Layout) (config : Config) (regions : List Region) (log : IssueLog) (source : Source) :
    SeedSet × IssueLog × Source :=
  let gathering : Gathering := { collector := { space := ⟨layout.domain, regions⟩ }, log, source }
  let gathering := gathering.offer ⟨"entry_point", [layout.entry]⟩
  let gathering :=
    if config.sources.pointerArrays then
      layout.pointerArrays.foldl (fun gathering array => gathering.read (array.reading layout config)) gathering
    else gathering
  let gathering :=
    if config.sources.symbols then
      layout.symbolTables.foldl (fun gathering table => gathering.offer (layout.symbolOffer table)) gathering
    else gathering
  let gathering :=
    if config.sources.unwindTables then
      layout.unwindTables.foldl (fun gathering table => gathering.read (table.reading layout config)) gathering
    else gathering
  let gathering :=
    if config.sources.extraEntryPoints then
      gathering.offer ⟨"extra_entry_points", config.extraEntryPoints⟩
    else gathering
  (gathering.collector.finish, gathering.log, gathering.source)

end IsaCensus
