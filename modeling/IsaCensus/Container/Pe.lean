import IsaCensus.Container.Layout
import IsaCensus.Container.Strings

/-! PE images. Addresses of the layout are relative to the image base. Headers have to be
sound; exports and thread-local storage are left out when they are not. -/

namespace IsaCensus.Pe

inductive Fault
  | headers
  | optionalHeaderTooSmall
  | optionalHeader
  | directories
  | sectionHeaders
deriving DecidableEq, Repr

def Fault.message : Fault → String
  | .headers => "Invalid PE headers offset or size"
  | .optionalHeaderTooSmall => "PE optional header size is too small"
  | .optionalHeader => "Invalid PE optional header size"
  | .directories => "Invalid PE number of RVA and sizes"
  | .sectionHeaders => "Invalid COFF/PE section headers"

inductive Kind
  | pe32
  | pe32Plus
deriving DecidableEq, Repr

namespace Kind

/-- The size of the optional header without its directories. -/
def optionalSize : Kind → Nat
  | .pe32 => 96
  | .pe32Plus => 112

def ofMagic? : Nat → Option Kind
  | 0x10b => some .pe32
  | 0x20b => some .pe32Plus
  | _ => none

def bitness : Kind → Nat
  | .pe32 => 32
  | .pe32Plus => 64

def pointerSize : Kind → Nat
  | .pe32 => 4
  | .pe32Plus => 8

/-- Where a directory for thread-local storage has the address of its callbacks. -/
def callbackField : Kind → Nat
  | .pe32 => 0x0c
  | .pe32Plus => 0x18

end Kind

/-- The word of `width` bytes at an offset of a part that is known to lie in the image. -/
def readWord (image : Bytes) (width offset : Nat) : Nat := (image.word? .little width offset).getD 0

def signature : List UInt8 := [0x50, 0x45, 0, 0]

/-- What makes an image one of this format: its two signatures and the magic number between
them and the sections, with room for the headers of the smaller form. -/
def recognize? (image : Bytes) : Option (Nat × Kind) := do
  guard (64 ≤ image.size)
  let start ← image.word? .little 4 0x3c
  guard (start + 120 ≤ image.size)
  guard (image.startsAt start signature)
  let magic ← image.word? .little 2 (start + 24)
  let kind ← Kind.ofMagic? magic
  return (start, kind)

structure Directory where
  address : Nat
  size : Nat
deriving DecidableEq, Repr

structure SectionHeader where
  name : List UInt8
  virtualSize : Nat
  address : Nat
  rawSize : Nat
  rawOffset : Nat
  characteristics : Nat
deriving DecidableEq, Repr

namespace SectionHeader

def read (image : Bytes) (place : Nat) : SectionHeader where
  name := (image.extract place (place + 8)).toList
  virtualSize := readWord image 4 (place + 8)
  address := readWord image 4 (place + 12)
  rawSize := readWord image 4 (place + 16)
  rawOffset := readWord image 4 (place + 20)
  characteristics := readWord image 4 (place + 36)

/-- The part of the section that has bytes in the file. -/
def backedSize (header : SectionHeader) : Nat := min header.virtualSize header.rawSize

def fileRange? (header : SectionHeader) : Option (Nat × Nat) :=
  if header.backedSize = 0 then none else some (header.rawOffset, header.backedSize)

/-- The bytes from an address to the end of the part with bytes in the file. -/
def dataAt? (header : SectionHeader) (image : Bytes) (address : Nat) : Option Bytes := do
  guard (header.address ≤ address)
  let delta := address - header.address
  guard (delta < header.backedSize ∧ header.rawOffset + delta < UInt32.size)
  image.slice? (header.rawOffset + delta) (header.backedSize - delta)

def permissions (header : SectionHeader) : Permissions where
  read := header.characteristics.testBit 30
  write := header.characteristics.testBit 31
  execute := header.characteristics.testBit 29 || header.characteristics.testBit 5

end SectionHeader

/-- Everything in an image that a layout is made from. -/
structure Headers where
  kind : Kind
  machine : Nat
  entry : Nat
  imageBase : UInt64
  directories : List Directory
  sections : List SectionHeader
  strings : Option StringTable
deriving DecidableEq, Repr

/-- The strings behind the symbol table. They begin with their own length. -/
def stringTable? (image : Bytes) (start : Nat) : Option StringTable := do
  let symbols := readWord image 4 (start + 12)
  let count := readWord image 4 (start + 16)
  guard (symbols ≠ 0)
  guard (count = 0 ∨ symbols + 18 * count ≤ image.size)
  let length ← image.word? .little 4 (symbols + 18 * count)
  return ⟨symbols + 18 * count, symbols + 18 * count + length⟩

def parse (image : Bytes) (start : Nat) (kind : Kind) : Except Fault Headers := do
  let optional := start + 24
  let fixedEnd := optional + kind.optionalSize
  if image.size < fixedEnd then throw .headers
  let optionalSize := readWord image 2 (start + 20)
  if optionalSize < kind.optionalSize then throw .optionalHeaderTooSmall
  let sectionStart := optional + optionalSize
  if optionalSize ≠ kind.optionalSize ∧ image.size < sectionStart then throw .optionalHeader
  let directoryCount := readWord image 4 (fixedEnd - 4)
  if optionalSize - kind.optionalSize < 8 * directoryCount then throw .directories
  match recordPlaces image sectionStart (readWord image 2 (start + 6)) 40 with
  | none => throw .sectionHeaders
  | some places =>
    return {
      kind
      machine := readWord image 2 (start + 4)
      entry := readWord image 4 (optional + 16)
      imageBase := (match kind with
        | .pe32 => readWord image 4 (optional + 28)
        | .pe32Plus => readWord image 8 (optional + 24)).toUInt64
      directories := (List.range directoryCount).map fun i =>
        ⟨readWord image 4 (fixedEnd + 8 * i), readWord image 4 (fixedEnd + 8 * i + 4)⟩
      sections := places.map (SectionHeader.read image)
      strings := stringTable? image start }

/-! Section names. A name of more than eight bytes stands in the string table, and the
header gives its offset in decimal or, after two slashes, in base 64. -/

def decimalDigit? (byte : UInt8) : Option Nat :=
  if 0x30 ≤ byte ∧ byte ≤ 0x39 then some (byte.toNat - 0x30) else none

def base64Digit? (byte : UInt8) : Option Nat :=
  if 0x41 ≤ byte ∧ byte ≤ 0x5a then some (byte.toNat - 0x41)
  else if 0x61 ≤ byte ∧ byte ≤ 0x7a then some (byte.toNat - 0x61 + 26)
  else if 0x30 ≤ byte ∧ byte ≤ 0x39 then some (byte.toNat - 0x30 + 52)
  else if byte = 0x2b then some 62
  else if byte = 0x2f then some 63
  else none

/-- The number that digits of a base write, the most significant first. -/
def digits? (base : Nat) (digit? : UInt8 → Option Nat) (bytes : List UInt8) : Option Nat :=
  bytes.foldlM (fun value byte => (digit? byte).map (base * value + ·)) 0

/-- The offset of a long name, or none if the header is not one. -/
def longNameOffset? : List UInt8 → Option (Option Nat)
  | 0x2f :: 0x2f :: digits => some ((digits? 64 base64Digit? digits).filter (· < UInt32.size))
  | 0x2f :: digits => some (digits? 10 decimalDigit? (digits.takeWhile (· ≠ 0)))
  | _ => none

def sectionName (headers : Headers) (image : Bytes) (header : SectionHeader) : String :=
  match longNameOffset? header.name with
  | some (some offset) => nameOrEmpty headers.strings image offset
  | some none => ""
  | none => textOrEmpty (header.name.takeWhile (· ≠ 0)).toArray

/-- An address without the image base. One below the base is taken to be relative already. -/
def relative (imageBase address : UInt64) : UInt64 :=
  if imageBase ≤ address then address - imageBase else address

/-- A relative address as the headers give it, after the base was added and taken off again. -/
def rebased (headers : Headers) (address : Nat) : UInt64 :=
  relative headers.imageBase (address.toUInt64 + headers.imageBase)

def mappedSection (headers : Headers) (image : Bytes) (index : Nat) (header : SectionHeader) : MappedRange where
  label := sectionName headers image header
  index := index + 1
  base := rebased headers header.address
  fileOffset := header.fileRange?.map fun range => range.1.toUInt64
  length := (match header.fileRange? with
    | some (_, size) => size
    | none => header.virtualSize).toUInt64
  permissions := header.permissions

/-- The distance of an address from another, counted around a space of 32 bits. -/
def distance (address start : Nat) : Nat := (address + UInt32.size - start) % UInt32.size

/-- A table of words in an export directory, given by its address. -/
def exportTable? (data : Bytes) (start address count width : Nat) : Option (List Nat) := do
  let places ← recordPlaces data (distance address start) count width
  return places.map (readWord data width)

/-- The address of an exported function. One that points into the directory names a
function of another image, and is not an address. -/
def exportAddress? (data : Bytes) (start : Nat) (functions : Array Nat) (pair : Nat × Nat) :
    Option (Option Nat) := do
  let _ ← data.terminated? (distance pair.1 start)
  let address ← functions[pair.2]?
  return if distance address start < data.size then none else some address

/-- The names of an export directory with the places of their functions. A directory may
have no names, but names without places are not sound. -/
def exportNames? (data : Bytes) (start : Nat) : Option (List (Nat × Nat)) :=
  let count := readWord data 4 24
  let nameTable := readWord data 4 32
  let ordinalTable := readWord data 4 36
  if nameTable = 0 then some []
  else if ordinalTable = 0 then none
  else do
    let names ← exportTable? data start nameTable count 4
    let ordinals ← exportTable? data start ordinalTable count 2
    return names.zip ordinals

def exportFunctions? (data : Bytes) (start : Nat) : Option (List Nat) :=
  let functionTable := readWord data 4 28
  if functionTable = 0 then some []
  else exportTable? data start functionTable (readWord data 4 20) 4

/-- The bytes of a directory, which have to lie in the part of a section that has some. -/
def directoryData? (headers : Headers) (image : Bytes) (directory : Directory) : Option Bytes := do
  let found ← headers.sections.findSome? (·.dataAt? image directory.address)
  guard (directory.size ≤ found.size)
  return found.extract 0 directory.size

/-- The exported addresses, in the order of their names, or nothing if a part of the
directory is not sound. -/
def exports? (headers : Headers) (image : Bytes) : Option (List Nat) := do
  let directory ← headers.directories[0]?
  guard (directory.address ≠ 0)
  let data ← directoryData? headers image directory
  guard (40 ≤ data.size)
  let functions := (← exportFunctions? data directory.address).toArray
  let pairs ← exportNames? data directory.address
  let addresses ← pairs.mapM (exportAddress? data directory.address functions)
  return addresses.filterMap id

def exportSymbol (headers : Headers) (sections : List MappedRange) (address : Nat) : Symbol :=
  let value := rebased headers address
  { table := "exports"
    value
    sectionIndex := (sections.find? (·.contains value)).map MappedRange.index
    kind := .function }

def unwindTable? (range : MappedRange) : Option UnwindTable :=
  if range.label = ".pdata" ∧ range.fileOffset.isSome then
    some { kind := .runtimeFunctions, address := range.base, size := range.length }
  else none

/-- The kind of an image, and the address of its directory for thread-local storage. The headers
are followed word by word, whatever bytes they are. -/
def threadStorage? (image : Bytes) : Option (Kind × Nat) := do
  let start ← image.word? .little 4 0x3c
  guard (image.startsAt start signature)
  let magic ← image.word? .little 2 (start + 24)
  let kind ← Kind.ofMagic? magic
  let count ← image.word? .little 4 (start + 24 + kind.optionalSize - 4)
  guard (9 < count)
  let directory ← image.word? .little 4 (start + 24 + kind.optionalSize + 8 * 9)
  guard (directory ≠ 0)
  return (kind, directory)

/-- The address of the callback array that the thread-local storage directory names. -/
def callbacks? (image : Bytes) (layout : Layout) : Option UInt64 := do
  let (kind, directory) ← threadStorage? image
  let (offset, _) ← layout.fileOffset? directory.toUInt64
  let address ← image.word? .little kind.pointerSize (offset.toNat + kind.callbackField)
  guard (address ≠ 0)
  return relative layout.imageBase address.toUInt64

def architecture : Nat → Architecture
  | 0x14c => .x86
  | 0x8664 => .x86_64
  | 0x1c4 => .arm
  | 0xaa64 | 0xa641 => .aarch64
  | _ => .other

def layout (headers : Headers) (image : Bytes) : Layout :=
  let sections := headers.sections.mapIdx fun index header => mappedSection headers image index header
  let layout : Layout := {
    format := .pe
    architecture := architecture headers.machine
    bitness := headers.kind.bitness
    imageBase := headers.imageBase
    entry := rebased headers headers.entry
    sections
    symbols := ((exports? headers image).getD []).map (exportSymbol headers sections)
    unwindTables := sections.filterMap unwindTable? }
  { layout with
    pointerArrays := ((callbacks? image layout).map fun address =>
      { name := "tls_callbacks", address, bias := headers.imageBase : PointerArray }).toList }

end IsaCensus.Pe
