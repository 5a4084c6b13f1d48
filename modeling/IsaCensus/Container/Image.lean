import IsaCensus.Container.Elf
import IsaCensus.Container.Pe
import IsaCensus.Fault

/-! Recognising a container by its first bytes, and its layout. -/

namespace IsaCensus

/-- The containers that are told apart. Those that are not read any further are known by name. -/
inductive Container
  | elf (width : Elf.Width)
  | pe (start : Nat) (kind : Pe.Kind)
  | object (format : String)
deriving DecidableEq, Repr

namespace Container

inductive Fault
  | noMagic
  | unknownMagic
  | unsupported
  | unknownDos
  | unknownAnonymousObject
deriving DecidableEq, Repr

def Fault.message : Fault → String
  | .noMagic => "Could not read file magic"
  | .unknownMagic => "Unknown file magic"
  | .unsupported => "Unsupported file format"
  | .unknownDos => "Unknown MS-DOS file"
  | .unknownAnonymousObject => "Unknown anon object file"

/-- Archives, caches and files for several architectures hold more than one container. -/
def collections : List (List UInt8) := [
  [0x21, 0x3c, 0x61, 0x72, 0x63, 0x68, 0x3e, 0x0a],
  [0x21, 0x3c, 0x74, 0x68, 0x69, 0x6e, 0x3e, 0x0a],
  [0x64, 0x79, 0x6c, 0x64, 0x5f, 0x76, 0x31, 0x20],
  [0xca, 0xfe, 0xba, 0xbe],
  [0xca, 0xfe, 0xba, 0xbf],
  [0x00, 0x00, 0xff, 0xff, 0x00, 0x00]]

def objects : List (List UInt8 × String) := [
  ([0x64, 0x86], "Coff"),
  ([0x4c, 0x01], "Coff"),
  ([0xc4, 0x01], "Coff"),
  ([0x64, 0xaa], "Coff"),
  ([0x41, 0xa6], "Coff"),
  ([0xcf, 0xfa, 0xed, 0xfe], "MachO"),
  ([0xce, 0xfa, 0xed, 0xfe], "MachO"),
  ([0xfe, 0xed, 0xfa, 0xce], "MachO"),
  ([0xfe, 0xed, 0xfa, 0xcf], "MachO"),
  ([0x01, 0xdf], "Xcoff"),
  ([0x01, 0xf7], "Xcoff")]

/-- The class that marks an anonymous object as one with many sections. -/
def manySections : List UInt8 :=
  [0xc7, 0xa1, 0xba, 0xd1, 0xee, 0xba, 0xa9, 0x4b, 0xaf, 0x20, 0xfa, 0xf6, 0x6a, 0xa4, 0xdc, 0xb8]

def recognize (image : Bytes) : Except Fault Container :=
  if image.size < 16 then .error .noMagic
  else if image.startsAt 0 [0x7f, 0x45, 0x4c, 0x46, 1] then .ok (.elf .bits32)
  else if image.startsAt 0 [0x7f, 0x45, 0x4c, 0x46, 2] then .ok (.elf .bits64)
  else if image.startsAt 0 [0x4d, 0x5a] then
    match Pe.recognize? image with
    | some (start, kind) => .ok (.pe start kind)
    | none => .error .unknownDos
  else if collections.any (image.startsAt 0) then .error .unsupported
  else if image.startsAt 0 [0x00, 0x00, 0xff, 0xff, 0x02, 0x00] then
    if 32 ≤ image.size ∧ image.startsAt 12 manySections then .ok (.object "Coff")
    else .error .unknownAnonymousObject
  else match objects.find? fun entry => image.startsAt 0 entry.1 with
    | some (_, format) => .ok (.object format)
    | none => .error .unknownMagic

end Container

def Layout.parse (image : Bytes) : Except Fault Layout :=
  match Container.recognize image with
  | .error fault => .error (.invalidFormat fault.message)
  | .ok (.object format) => .error (.unsupportedFormat format)
  | .ok (.elf width) =>
    match Elf.parse image width with
    | .ok file => .ok (Elf.layout file image)
    | .error fault => .error (.invalidFormat fault.message)
  | .ok (.pe start kind) =>
    match Pe.parse image start kind with
    | .ok headers => .ok (Pe.layout headers image)
    | .error fault => .error (.invalidFormat fault.message)

end IsaCensus
