import IsaCensus.Decode.X86
import IsaCensus.Decode.X86.Extension

/-! Encodings of single instructions, and engines that know no others. An encoding is written out in
full, operands and displacement included, so such an engine is for code that is known beforehand. -/

namespace IsaCensus.X86

/-- An instruction and how it is written, displacement and all. -/
structure Encoding where
  bytes : List UInt8
  flow : Flow := .sequential
  /-- The number of bytes of displacement that a branch target is counted by, or zero. -/
  displacement : Nat := 0
  features : List Extension := []
  valid : Bool := true
deriving DecidableEq, Repr

namespace Encoding

def plain (bytes : List UInt8) (features : List Extension) : Encoding := { bytes, features }

def control (bytes : List UInt8) (flow : Flow) (features : List Extension) : Encoding :=
  { bytes, flow, features }

def branch (bytes : List UInt8) (displacement : Nat) (flow : Flow) (features : List Extension) : Encoding :=
  { bytes, flow, displacement, features }

/-- Bytes that stand for no instruction. -/
def refused (bytes : List UInt8) : Encoding :=
  { bytes, flow := .exception, features := [.intel8086], valid := false }

def length (encoding : Encoding) : Nat := encoding.bytes.length

/-- The mark that switches to the other operand size stands before the opcode. -/
def switchesOperandSize (encoding : Encoding) : Bool :=
  (encoding.bytes.takeWhile fun byte => byte == 0x66 || byte == 0x67).contains 0x66

/-- The number of bytes that a branch target has. The mark changes nothing in 64-bit code. -/
def targetWidth (encoding : Encoding) : Mode → Nat
  | .bits16 => if encoding.switchesOperandSize then 4 else 2
  | .bits32 => if encoding.switchesOperandSize then 2 else 4
  | .bits64 => 8

/-- The distance of a branch, which is the signed number in the last bytes. -/
def distance (encoding : Encoding) : Int :=
  let word := littleValue (encoding.bytes.drop (encoding.length - encoding.displacement))
  if 2 * word < capacity encoding.displacement then word
  else (word : Int) - capacity encoding.displacement

/-- Where a branch goes, counted from the address of the next instruction. -/
def target? (encoding : Encoding) (mode : Mode) (next : UInt64) : Option UInt64 :=
  if encoding.displacement = 0 then none
  else some (UInt64.ofInt (((next.toNat : Int) + encoding.distance) % capacity (encoding.targetWidth mode)))

def instruction (encoding : Encoding) (mode : Mode) (address : UInt64) : Instruction Extension :=
  let next := address + encoding.length.toUInt64
  { address
    length := encoding.length
    next
    flow := encoding.flow
    target := encoding.target? mode next
    valid := encoding.valid
    features := encoding.features }

end Encoding

/-- All that remains of the bytes, when no encoding fits into it. -/
def cutOff (length : Nat) (address : UInt64) : Instruction Extension :=
  { address
    length
    next := address + length.toUInt64
    flow := .exception
    valid := false
    features := [.intel8086] }

/-- What is at a position of the bytes, as far as the encodings go. The pointer is the address of that place. -/
def instructionAt (known : List Encoding) (mode : Mode) (bytes : Bytes) (position : Nat) (pointer : UInt64) :
    Instruction Extension :=
  match known.find? fun encoding => bytes.startsAt position encoding.bytes with
  | some encoding => encoding.instruction mode pointer
  | none => cutOff (bytes.size - position) pointer

/-- The engine that knows these encodings for each size of code. Bytes that begin with none of them
are taken for an instruction that the end of the bytes cuts off. -/
def Engine.ofEncodings (known : Mode → List Encoding) : Engine Extension where
  read mode bytes position pointer :=
    let instruction := instructionAt (known mode) mode bytes position pointer
    (instruction, position + instruction.length, instruction.next)
  name := Extension.name

end IsaCensus.X86
