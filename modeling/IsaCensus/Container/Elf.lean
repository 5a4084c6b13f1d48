import IsaCensus.Container.Layout
import IsaCensus.Container.Strings

/-! ELF files. A file is read in a fixed order: header, program headers, section headers,
section names, the two symbol tables, and the links of relocation sections. The first part
that is not sound decides the fault. -/

namespace IsaCensus.Elf

inductive Width
  | bits32
  | bits64
deriving DecidableEq, Repr

inductive Fault
  | header
  | unsupportedHeader
  | programEntrySize
  | programTable
  | noSectionForProgramCount
  | sectionEntrySize
  | firstSection
  | sectionTable
  | noNameTable
  | nameTableIndex
  | nameTableSize
  | symbolTable
  | extendedIndices
  | sectionIndex
  | stringTableType
  | stringTableRange
  | relocatedSection
  | relocatedRelocations
  | unknownType
deriving DecidableEq, Repr

def Fault.message : Fault → String
  | .header => "Invalid ELF header size or alignment"
  | .unsupportedHeader => "Unsupported ELF header"
  | .programEntrySize => "Invalid ELF program header entry size"
  | .programTable => "Invalid ELF program header size or alignment"
  | .noSectionForProgramCount => "Missing ELF section headers for e_phnum overflow"
  | .sectionEntrySize => "Invalid ELF section header entry size"
  | .firstSection => "Invalid ELF section header offset or size"
  | .sectionTable => "Invalid ELF section header offset/size/alignment"
  | .noNameTable => "Missing ELF e_shstrndx"
  | .nameTableIndex => "Invalid ELF e_shstrndx"
  | .nameTableSize => "Invalid ELF shstrtab size"
  | .symbolTable => "Invalid ELF symbol table data"
  | .extendedIndices => "Invalid ELF symtab_shndx data"
  | .sectionIndex => "Invalid ELF section index"
  | .stringTableType => "Invalid ELF string section type"
  | .stringTableRange => "Invalid ELF string section offset or size"
  | .relocatedSection => "Invalid ELF sh_info for relocation section"
  | .relocatedRelocations => "Unsupported ELF sh_info for relocation section"
  | .unknownType => "ELF file of unknown type"

structure Style where
  width : Width
  order : Endian
deriving DecidableEq, Repr

/-- A field of a record: its offset and size in a file of each width. -/
structure Field where
  narrow : Nat × Nat
  wide : Nat × Nat

namespace Style

def pick {α : Type} (style : Style) (narrow wide : α) : α :=
  match style.width with
  | .bits32 => narrow
  | .bits64 => wide

/-- The value of a field of a record that is known to lie in the image. -/
def read (style : Style) (image : Bytes) (record : Nat) (field : Field) : Nat :=
  let (offset, size) := style.pick field.narrow field.wide
  (image.word? style.order size (record + offset)).getD 0

def headerSize (style : Style) : Nat := style.pick 52 64
def programSize (style : Style) : Nat := style.pick 32 56
def sectionSize (style : Style) : Nat := style.pick 40 64
def symbolSize (style : Style) : Nat := style.pick 16 24

end Style

structure Header where
  type : Nat
  machine : Nat
  entry : Nat
  programOffset : Nat
  sectionOffset : Nat
  programEntrySize : Nat
  programCount : Nat
  sectionEntrySize : Nat
  sectionCount : Nat
  nameTable : Nat
deriving DecidableEq, Repr

def Style.header (style : Style) (image : Bytes) : Header :=
  let field := style.read image 0
  { type := field ⟨(16, 2), (16, 2)⟩
    machine := field ⟨(18, 2), (18, 2)⟩
    entry := field ⟨(24, 4), (24, 8)⟩
    programOffset := field ⟨(28, 4), (32, 8)⟩
    sectionOffset := field ⟨(32, 4), (40, 8)⟩
    programEntrySize := field ⟨(42, 2), (54, 2)⟩
    programCount := field ⟨(44, 2), (56, 2)⟩
    sectionEntrySize := field ⟨(46, 2), (58, 2)⟩
    sectionCount := field ⟨(48, 2), (60, 2)⟩
    nameTable := field ⟨(50, 2), (62, 2)⟩ }

structure ProgramHeader where
  type : Nat
  flags : Nat
  offset : Nat
  address : Nat
  fileSize : Nat
deriving DecidableEq, Repr

def Style.programHeader (style : Style) (image : Bytes) (place : Nat) : ProgramHeader :=
  let field := style.read image place
  { type := field ⟨(0, 4), (0, 4)⟩
    flags := field ⟨(24, 4), (4, 4)⟩
    offset := field ⟨(4, 4), (8, 8)⟩
    address := field ⟨(8, 4), (16, 8)⟩
    fileSize := field ⟨(16, 4), (32, 8)⟩ }

structure SectionHeader where
  name : Nat
  type : Nat
  flags : Nat
  address : Nat
  offset : Nat
  size : Nat
  link : Nat
  info : Nat
deriving DecidableEq, Repr

def Style.sectionHeader (style : Style) (image : Bytes) (place : Nat) : SectionHeader :=
  let field := style.read image place
  { name := field ⟨(0, 4), (0, 4)⟩
    type := field ⟨(4, 4), (4, 4)⟩
    flags := field ⟨(8, 4), (8, 8)⟩
    address := field ⟨(12, 4), (16, 8)⟩
    offset := field ⟨(16, 4), (24, 8)⟩
    size := field ⟨(20, 4), (32, 8)⟩
    link := field ⟨(24, 4), (40, 4)⟩
    info := field ⟨(28, 4), (44, 4)⟩ }

namespace SectionHeader

/-- The section has a place in the address space but no bytes in the file. -/
def isEmptyInFile (header : SectionHeader) : Bool := header.type = 8

def fileRange? (header : SectionHeader) : Option (Nat × Nat) :=
  if header.isEmptyInFile then none else some (header.offset, header.size)

def holdsRelocations (header : SectionHeader) : Bool :=
  header.type = 9 ∨ header.type = 4 ∨ header.type = 0x40000014

/-- The places of the records of a size that fill the section. -/
def records? (header : SectionHeader) (image : Bytes) (size : Nat) : Option (List Nat) :=
  match header.fileRange? with
  | none => some []
  | some (offset, length) =>
    if length % size = 0 then recordPlaces image offset (length / size) size else none

end SectionHeader

structure SymbolRecord where
  value : Nat
  info : Nat
  /-- The section that the record names, with the extended index in place of its mark. -/
  sectionIndex : Option Nat
  isDefined : Bool
deriving DecidableEq, Repr

/-- Section 0 holds the counts that do not fit into the header. -/
def firstSection? (style : Style) (header : Header) (image : Bytes) : Except Fault (Option SectionHeader) := do
  if header.sectionOffset = 0 then return none
  if header.sectionEntrySize ≠ style.sectionSize then throw .sectionEntrySize
  if image.size < header.sectionOffset + style.sectionSize then throw .firstSection
  return some (style.sectionHeader image header.sectionOffset)

def programHeaders (style : Style) (header : Header) (image : Bytes) : Except Fault (List ProgramHeader) := do
  if header.programOffset = 0 then return []
  let count ←
    if header.programCount < 0xffff then pure header.programCount
    else match ← firstSection? style header image with
      | some first => pure first.info
      | none => throw .noSectionForProgramCount
  if count = 0 then return []
  if header.programEntrySize ≠ style.programSize then throw .programEntrySize
  match recordPlaces image header.programOffset count style.programSize with
  | some places => return places.map (style.programHeader image)
  | none => throw .programTable

def sectionHeaders (style : Style) (header : Header) (image : Bytes) : Except Fault (List SectionHeader) := do
  if header.sectionOffset = 0 then return []
  let count ←
    if 0 < header.sectionCount then pure header.sectionCount
    else match ← firstSection? style header image with
      | some first => pure first.size
      | none => pure 0
  if count = 0 then return []
  if header.sectionEntrySize ≠ style.sectionSize then throw .sectionEntrySize
  match recordPlaces image header.sectionOffset count style.sectionSize with
  | some places => return places.map (style.sectionHeader image)
  | none => throw .sectionTable

def sectionNames (style : Style) (header : Header) (image : Bytes) (sections : List SectionHeader) :
    Except Fault (Option StringTable) := do
  if sections.isEmpty then return none
  let index ←
    if header.nameTable = 0xffff then
      pure (((← firstSection? style header image).map SectionHeader.link).getD 0)
    else pure header.nameTable
  if index = 0 then throw .noNameTable
  match sections[index]? with
  | none => throw .nameTableIndex
  | some table =>
    match table.fileRange? with
    | none => return none
    | some (offset, size) =>
      if UInt64.size ≤ offset + size then throw .nameTableSize
      return some ⟨offset, offset + size⟩

/-- The string table that a symbol table names has to be one, although no name in it is needed. -/
def checkStrings (sections : List SectionHeader) (link : Nat) : Except Fault Unit := do
  if link = 0 then return
  match sections[link]? with
  | none => throw .sectionIndex
  | some strings =>
    if strings.type ≠ 3 then throw .stringTableType
    if UInt64.size ≤ strings.offset + strings.size then throw .stringTableRange

/-- The section indices that do not fit into the records of a symbol table. Of several
sections that extend one table the last counts. -/
def extendedIndices (style : Style) (image : Bytes) (sections : List SectionHeader) (table : Nat) :
    Except Fault (Array Nat) :=
  sections.foldlM (fun found header =>
    if header.type = 18 ∧ header.link = table then
      match header.records? image 4 with
      | none => throw .extendedIndices
      | some places => return (places.map fun place => (image.word? style.order 4 place).getD 0).toArray
    else return found) #[]

def symbolRecord (style : Style) (image : Bytes) (extended : Array Nat) (index place : Nat) : SymbolRecord :=
  let field := style.read image place
  let named := field ⟨(14, 2), (6, 2)⟩
  { value := field ⟨(4, 4), (8, 8)⟩
    info := field ⟨(12, 1), (4, 1)⟩
    sectionIndex :=
      if named = 0 then none
      else if named = 0xffff then extended[index]?.filter (· ≠ 0)
      else if 0xff00 ≤ named then none
      else some named
    isDefined := named ≠ 0 }

/-- The place of the first section of a type, and the symbols in it. The first symbol of a
table stands for nothing. Without such a section there are no symbols, and the place is 0. -/
def symbols (style : Style) (image : Bytes) (sections : List SectionHeader) (type : Nat) :
    Except Fault (Nat × List SymbolRecord) := do
  match sections.findIdx? (·.type == type) with
  | none => return (0, [])
  | some table =>
    let header := sections[table]?.getD ⟨0, 0, 0, 0, 0, 0, 0, 0⟩
    match header.records? image style.symbolSize with
    | none => throw .symbolTable
    | some places =>
      checkStrings sections header.link
      let extended ← extendedIndices style image sections table
      let records := places.mapIdx fun index place => symbolRecord style image extended index place
      return (table, records.drop 1)

/-- Relocations for the symbol table must apply to a section that holds none itself. The
last relocation section is looked at first. -/
def checkRelocations (sections : List SectionHeader) (symbolTable : Nat) : Except Fault Unit :=
  sections.reverse.forM fun header => do
    if header.holdsRelocations ∧ header.link = symbolTable ∧ header.info ≠ 0 then
      match sections[header.info]? with
      | none => throw .relocatedSection
      | some relocated => if relocated.holdsRelocations then throw .relocatedRelocations

structure File where
  style : Style
  header : Header
  programs : List ProgramHeader
  sections : List SectionHeader
  names : Option StringTable
  symbols : List SymbolRecord
  dynamicSymbols : List SymbolRecord
deriving DecidableEq, Repr

/-- The identification at the start of a file gives its byte order and its version. -/
def style? (image : Bytes) (width : Width) : Except Fault Style := do
  if image.size < Style.headerSize ⟨width, .little⟩ then throw .header
  match image.word? .little 1 5, image.word? .little 1 6 with
  | some 1, some 1 => return ⟨width, .little⟩
  | some 2, some 1 => return ⟨width, .big⟩
  | _, _ => throw .unsupportedHeader

def parse (image : Bytes) (width : Width) : Except Fault File := do
  let style ← style? image width
  let header := style.header image
  let programs ← programHeaders style header image
  let sections ← sectionHeaders style header image
  let names ← sectionNames style header image sections
  let (symbolTable, records) ← symbols style image sections 2
  let (_, dynamicRecords) ← symbols style image sections 11
  checkRelocations sections symbolTable
  if header.type ∉ [1, 2, 3, 4] then throw .unknownType
  return { style, header, programs, sections, names, symbols := records, dynamicSymbols := dynamicRecords }

def architecture (width : Width) (machine : Nat) : Architecture :=
  match machine, width with
  | 3, _ => .x86
  | 0x3e, .bits64 => .x86_64
  | 0x28, _ => .arm
  | 0xb7, .bits64 => .aarch64
  | _, _ => .other

/-- The sections that hold packed code pointers. -/
def pointerArrayNames : List String := [".preinit_array", ".init_array", ".fini_array", ".ctors", ".dtors"]

def segment (index : Nat) (program : ProgramHeader) : MappedRange where
  label := "LOAD[" ++ toString index ++ "]"
  index := index
  base := program.address.toUInt64
  fileOffset := some program.offset.toUInt64
  length := program.fileSize.toUInt64
  permissions :=
    ⟨program.flags.testBit 2, program.flags.testBit 1, program.flags.testBit 0⟩

def mappedSection (file : File) (image : Bytes) (index : Nat) (header : SectionHeader) : MappedRange where
  label := nameOrEmpty file.names image header.name
  index := index
  base := header.address.toUInt64
  fileOffset := header.fileRange?.map fun range => range.1.toUInt64
  length := header.size.toUInt64
  permissions := ⟨true, header.flags.testBit 0, header.flags.testBit 2⟩

def symbol (table : String) (record : SymbolRecord) : Symbol where
  table := table
  value := record.value.toUInt64
  sectionIndex := record.sectionIndex
  kind := match record.info % 16 with
    | 2 | 10 => .function
    | 1 | 5 => .data
    | _ => .other
  isDefined := record.isDefined

def pointerArray? (range : MappedRange) : Option PointerArray :=
  if range.label ∈ pointerArrayNames ∧ range.fileOffset.isSome then
    some { name := (range.label.drop 1).toString, address := range.base, size := some range.length }
  else none

def unwindTable? (range : MappedRange) : Option UnwindTable :=
  if range.label = ".eh_frame_hdr" ∧ range.fileOffset.isSome then
    some { kind := .frameHeader, address := range.base, size := range.length }
  else none

def layout (file : File) (image : Bytes) : Layout :=
  let sections := (file.sections.mapIdx fun index header => mappedSection file image index header).drop 1
  { format := .elf
    architecture := architecture file.style.width file.header.machine
    bitness := file.style.pick 32 64
    order := file.style.order
    entry := file.header.entry.toUInt64
    segments := (file.programs.filter (·.type == 1)).mapIdx fun index program => segment index program
    sections
    symbols := file.symbols.map (symbol ".symtab") ++ file.dynamicSymbols.map (symbol ".dynsym")
    pointerArrays := sections.filterMap pointerArray?
    unwindTables := sections.filterMap unwindTable? }

end IsaCensus.Elf
