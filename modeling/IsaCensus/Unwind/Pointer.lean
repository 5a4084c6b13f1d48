import IsaCensus.Bytes
import IsaCensus.Unwind.Leb128

/-! Encoded pointers of unwind tables. An encoding byte gives the format of a field and the
base that its value is relative to. The byte ff says that the field is left out. -/

namespace IsaCensus.Unwind

inductive Format
  | address
  | unsignedLeb
  | unsigned2
  | unsigned4
  | unsigned8
  | signedLeb
  | signed2
  | signed4
  | signed8
deriving DecidableEq, Repr

/-- What a field's value is added to: nothing, the field's own address, or the address of the table. -/
inductive Application
  | absolute
  | fieldRelative
  | tableRelative
deriving DecidableEq, Repr

structure Encoding where
  format : Format
  application : Application
deriving DecidableEq, Repr

namespace Format

def code : Format → UInt8
  | .address => 0x00
  | .unsignedLeb => 0x01
  | .unsigned2 => 0x02
  | .unsigned4 => 0x03
  | .unsigned8 => 0x04
  | .signedLeb => 0x09
  | .signed2 => 0x0a
  | .signed4 => 0x0b
  | .signed8 => 0x0c

def ofCode? : UInt8 → Option Format
  | 0x00 => some .address
  | 0x01 => some .unsignedLeb
  | 0x02 => some .unsigned2
  | 0x03 => some .unsigned4
  | 0x04 => some .unsigned8
  | 0x09 => some .signedLeb
  | 0x0a => some .signed2
  | 0x0b => some .signed4
  | 0x0c => some .signed8
  | _ => none

theorem ofCode_code (format : Format) : ofCode? format.code = some format := by
  cases format <;> rfl

end Format

namespace Application

def code : Application → UInt8
  | .absolute => 0x00
  | .fieldRelative => 0x10
  | .tableRelative => 0x30

def ofCode? : UInt8 → Option Application
  | 0x00 => some .absolute
  | 0x10 => some .fieldRelative
  | 0x30 => some .tableRelative
  | _ => none

end Application

namespace Encoding

def code (encoding : Encoding) : UInt8 := encoding.format.code ||| encoding.application.code

/-- An encoding of bit 80 is indirect, and no table that uses one is understood. -/
def ofCode? (code : UInt8) : Option Encoding := do
  guard (code &&& 0x80 = 0)
  let application ← Application.ofCode? (code &&& 0x70)
  let format ← Format.ofCode? (code &&& 0x0f)
  return { format, application }

theorem ofCode_code (encoding : Encoding) : ofCode? encoding.code = some encoding := by
  obtain ⟨format, application⟩ := encoding
  cases format <;> cases application <;> rfl

end Encoding

/-- Where the fields of a table stand and how they are written. -/
structure Frame where
  order : Endian
  base : UInt64
  addressSize : UInt8
deriving DecidableEq, Repr

/-- The bytes of a table that are not read yet, and how many were read before them. -/
structure Cursor where
  position : Nat
  rest : List UInt8
deriving DecidableEq, Repr

def Cursor.skip (cursor : Cursor) (n : Nat) : Cursor := ⟨cursor.position + n, cursor.rest.drop n⟩

/-- The number that a word of `width` bytes stands for when its top bit is a sign. -/
def signExtend (width : Nat) (word : Nat) : Int :=
  if 2 * word < capacity width then word else (word : Int) - capacity width

namespace Frame

def word? (frame : Frame) (width : Nat) (bytes : List UInt8) : Option Nat :=
  let word := bytes.take width
  if word.length = width then some (frame.order.value word) else none

def unsignedWord (frame : Frame) (width : Nat) (bytes : List UInt8) : Option (Int × Nat) :=
  (frame.word? width bytes).map fun n => ((n : Int), width)

def signedWord (frame : Frame) (width : Nat) (bytes : List UInt8) : Option (Int × Nat) :=
  (frame.word? width bytes).map fun n => (signExtend width n, width)

/-- The number written at the start of the bytes, and how many of them it takes. -/
def number (frame : Frame) : Format → List UInt8 → Option (Int × Nat)
  | .unsignedLeb, bytes => (unsigned 0 bytes).map fun (n, length) => ((n : Int), length)
  | .unsigned2, bytes => frame.unsignedWord 2 bytes
  | .unsigned4, bytes => frame.unsignedWord 4 bytes
  | .unsigned8, bytes => frame.unsignedWord 8 bytes
  | .signedLeb, bytes => signed 0 bytes
  | .signed2, bytes => frame.signedWord 2 bytes
  | .signed4, bytes => frame.signedWord 4 bytes
  | .signed8, bytes => frame.signedWord 8 bytes
  | .address, bytes =>
    if frame.addressSize ∈ [1, 2, 4, 8] then frame.unsignedWord frame.addressSize.toNat bytes else none

def bias (frame : Frame) (position : Nat) : Application → UInt64
  | .absolute => 0
  | .fieldRelative => frame.base + position.toUInt64
  | .tableRelative => frame.base

/-- Addresses of four bytes have 32 bits. -/
def reduce (frame : Frame) (address : UInt64) : UInt64 :=
  if frame.addressSize = 4 then address &&& 0xffffffff else address

def pointer (frame : Frame) (encoding : Encoding) (cursor : Cursor) : Option (UInt64 × Cursor) :=
  (frame.number encoding.format cursor.rest).map fun (n, length) =>
    (frame.reduce (frame.bias cursor.position encoding.application + UInt64.ofInt n), cursor.skip length)

end Frame

end IsaCensus.Unwind
