import IsaCensus.Instruction

/-! A scripted instruction set. Each opcode spells out what the decoded instruction reports,
so every behaviour that a decoder could show a traversal can be written as bytes. Operands
are little endian, and features are plain bytes. -/

namespace IsaCensus.Scripted

/-- The flows by the number that encodes them. -/
def flows : List Flow :=
  [.sequential, .unconditionalBranch, .conditionalBranch, .call, .indirectBranch, .ret, .interrupt,
    .exception, .specialTransaction, .trap]

structure Cursor where
  bytes : Bytes
  base : UInt64
  position : Nat := 0
deriving DecidableEq, Repr

namespace Cursor

def remaining (cursor : Cursor) : Nat := cursor.bytes.size - cursor.position

def address (cursor : Cursor) : UInt64 := cursor.base + cursor.position.toUInt64

/-- The operand byte at a distance from the opcode. -/
def operand (cursor : Cursor) (distance : Nat) : UInt8 :=
  cursor.bytes[cursor.position + distance]?.getD 0

def operandWord (cursor : Cursor) (distance width : Nat) : UInt64 :=
  (littleValue ((cursor.bytes.extract (cursor.position + distance)
    (cursor.position + distance + width)).toList)).toUInt64

/-- An instruction at the position that is as plain as its opcode lets it be. -/
def plain (cursor : Cursor) (length : Nat) (flow : Flow) : Instruction UInt8 where
  address := cursor.address
  length := length
  next := cursor.address + length.toUInt64
  flow := flow
  features := [0]

/-- What the bytes at the position would be if they went past the end of the region. -/
def cutOff (cursor : Cursor) : Instruction UInt8 :=
  { cursor.plain cursor.remaining .sequential with valid := false }

/-- An instruction of which each part is written out. -/
def freeForm (cursor : Cursor) : Instruction UInt8 :=
  let flags := cursor.operand 2
  let bit (mask : UInt8) : Bool := flags &&& mask ≠ 0
  let length := (cursor.operand 3).toNat
  let plain := cursor.plain length ((flows[(cursor.operand 1).toNat % 10]?).getD .sequential)
  { plain with
    valid := bit 1
    target := if bit 2 then some (cursor.operandWord 20 8) else none
    address := if bit 4 then cursor.operandWord 4 8 else plain.address
    next := if bit 8 then cursor.operandWord 12 8 else plain.next }

/-- The number of bytes that the instruction at the position is written with. -/
def written (cursor : Cursor) : Nat :=
  match cursor.operand 0 with
  | 0x03 | 0x04 | 0x05 | 0x0b => 5
  | 0x0c => 9
  | 0x0d => if cursor.remaining < 2 then 2 else 2 + (cursor.operand 1).toNat
  | 0x0e => 28
  | 0x0f => 2
  | 0x10 | 0x11 | 0x12 | 0x13 | 0x14 | 0x15 | 0x16 | 0x17 | 0x18 | 0x19 => 5
  | _ => 1

def branch (cursor : Cursor) (flow : Flow) : Instruction UInt8 :=
  { cursor.plain 5 flow with target := some (cursor.operandWord 1 4) }

def instruction (cursor : Cursor) : Instruction UInt8 :=
  if cursor.remaining < cursor.written then cursor.cutOff
  else match cursor.operand 0 with
    | 0x00 => cursor.plain 0 .sequential
    | 0x01 => cursor.plain 1 .sequential
    | 0x02 => cursor.plain 1 .ret
    | 0x03 => cursor.branch .unconditionalBranch
    | 0x04 => cursor.branch .conditionalBranch
    | 0x05 => cursor.branch .call
    | 0x06 => cursor.plain 1 .indirectBranch
    | 0x07 => cursor.plain 1 .interrupt
    | 0x08 => cursor.plain 1 .exception
    | 0x09 => { cursor.plain 1 .trap with features := [2] }
    | 0x0a => { cursor.plain 1 .sequential with features := [1] }
    | 0x0b => cursor.branch .specialTransaction
    | 0x0c => { cursor.plain 9 .unconditionalBranch with target := some (cursor.operandWord 1 8) }
    | 0x0d => { cursor.plain cursor.written .sequential with
        features := (cursor.bytes.extract (cursor.position + 2) (cursor.position + cursor.written)).toList }
    | 0x0e => cursor.freeForm
    | 0x0f => cursor.plain (cursor.operand 1).toNat .sequential
    | opcode =>
      if 0x10 ≤ opcode ∧ opcode ≤ 0x19 then
        cursor.branch ((flows[opcode.toNat - 0x10]?).getD .sequential)
      else { cursor.plain 1 .sequential with valid := false }

end Cursor

/-- A cursor never moves to the byte f0, which stands for code that cannot be entered. -/
def decoder : Decoder Cursor UInt8 where
  cursor bytes base := { bytes, base }
  seek cursor offset :=
    match cursor.bytes[offset]? with
    | some byte => if byte = 0xf0 then (false, cursor) else (true, { cursor with position := offset })
    | none => (false, cursor)
  hasRemaining cursor := cursor.position < cursor.bytes.size
  decode cursor :=
    let instruction := cursor.instruction
    (instruction, { cursor with position := cursor.position + instruction.length })

/-- Features that differ by 128 share a name. -/
def featureName (feature : UInt8) : String := "F" ++ toString (feature.toNat % 128)

end IsaCensus.Scripted
