import IsaCensus.Address

/-! What a container says about the code in it: mapped ranges, symbols, pointer arrays and
unwind tables. -/

namespace IsaCensus

inductive Format
  | elf
  | pe
deriving DecidableEq, Repr

inductive Architecture
  | x86
  | x86_64
  | arm
  | aarch64
  | other
deriving DecidableEq, Repr

namespace Architecture

def isX86 : Architecture → Bool
  | .x86 | .x86_64 => true
  | _ => false

/-- The name that messages use. -/
def text : Architecture → String
  | .x86 => "x86"
  | .x86_64 => "x86_64"
  | .arm => "arm"
  | .aarch64 => "aarch64"
  | .other => "other"

/-- The name that reports use. -/
def name : Architecture → String
  | .x86 => "X86"
  | .x86_64 => "X86_64"
  | .arm => "Arm"
  | .aarch64 => "AArch64"
  | .other => "Other"

def ofName? : String → Option Architecture
  | "X86" => some .x86
  | "X86_64" => some .x86_64
  | "Arm" => some .arm
  | "AArch64" => some .aarch64
  | "Other" => some .other
  | _ => none

end Architecture

namespace Format

def text : Format → String
  | .elf => "elf"
  | .pe => "pe"

def name : Format → String
  | .elf => "Elf"
  | .pe => "Pe"

def ofName? : String → Option Format
  | "Elf" => some .elf
  | "Pe" => some .pe
  | _ => none

/-- Code of a PE image is addressed relative to the image base. -/
def domain : Format → Domain
  | .elf => .va64
  | .pe => .rva32

end Format

structure Permissions where
  read : Bool := false
  write : Bool := false
  execute : Bool := false
deriving DecidableEq, Repr

/-- A segment or section: `length` bytes at `base`. -/
structure MappedRange where
  label : String
  index : Nat := 0
  base : UInt64 := 0
  /-- Where the bytes stand in the file, if they do. -/
  fileOffset : Option UInt64 := none
  length : UInt64 := 0
  permissions : Permissions := {}
deriving DecidableEq, Repr

namespace MappedRange

def contains (range : MappedRange) (address : UInt64) : Bool :=
  range.base ≤ address ∧ address - range.base < range.length

/-- Code can be read from the range. -/
def holdsCode (range : MappedRange) : Bool :=
  range.permissions.execute && 0 < range.length && range.fileOffset.isSome

end MappedRange

inductive SymbolKind
  | function
  | data
  | other
deriving DecidableEq, Repr

structure Symbol where
  table : String
  value : UInt64 := 0
  sectionIndex : Option Nat := none
  kind : SymbolKind
  isDefined : Bool := true
deriving DecidableEq, Repr

structure PointerArray where
  name : String
  address : UInt64 := 0
  /-- The size in bytes, or none for an array that ends at a zero. -/
  size : Option UInt64 := none
  /-- What is subtracted from every pointer to make it an address of the layout. -/
  bias : UInt64 := 0
deriving DecidableEq, Repr

inductive UnwindKind
  | frameHeader
  | runtimeFunctions
deriving DecidableEq, Repr

structure UnwindTable where
  kind : UnwindKind
  address : UInt64 := 0
  size : UInt64 := 0
deriving DecidableEq, Repr

structure Layout where
  format : Format
  architecture : Architecture
  bitness : Nat := 64
  order : Endian := .little
  imageBase : UInt64 := 0
  entry : UInt64 := 0
  segments : List MappedRange := []
  sections : List MappedRange := []
  symbols : List Symbol := []
  pointerArrays : List PointerArray := []
  unwindTables : List UnwindTable := []
deriving DecidableEq, Repr

namespace Layout

def domain (layout : Layout) : Domain := layout.format.domain

def pointerSize (layout : Layout) : Nat := if layout.bitness = 64 then 8 else 4

def sectionAt? (layout : Layout) (index : Nat) : Option MappedRange :=
  layout.sections.find? (·.index == index)

/-- Symbols of an object file that was not linked are counted from their section. -/
def symbolsAreSectionRelative (layout : Layout) : Bool :=
  layout.format == .elf && layout.segments.isEmpty

/-- The first range with file data that contains the address. Segments come first. -/
def backing? (layout : Layout) (address : UInt64) : Option MappedRange :=
  (layout.segments ++ layout.sections).find? fun range =>
    range.fileOffset.isSome && range.contains address

/-- The file offset of an address, and the number of bytes from there to the end of its range. -/
def fileOffset? (layout : Layout) (address : UInt64) : Option (UInt64 × UInt64) := do
  let range ← layout.backing? address
  let start ← range.fileOffset
  let delta := address - range.base
  guard (start.toNat + delta.toNat < UInt64.size)
  return (start + delta, range.length - delta)

inductive Origin
  | segments
  | sections
  | nothing
deriving DecidableEq, Repr

def Origin.name : Origin → String
  | .segments => "Segments"
  | .sections => "Sections"
  | .nothing => "None"

/-- The ranges that code is read from: segments, or sections when no segment holds code. -/
def code (layout : Layout) : Origin × List MappedRange :=
  match layout.segments.filter MappedRange.holdsCode, layout.sections.filter MappedRange.holdsCode with
  | [], [] => (.nothing, [])
  | [], sections => (.sections, sections)
  | segments, _ => (.segments, segments)

end Layout

end IsaCensus
