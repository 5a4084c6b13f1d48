import IsaCensus.Container.Layout
import IsaCensus.Fault
import IsaCensus.Instruction

/-! The x86 decoder. An engine knows the instructions: what the bytes at a position stand for, in
code of a given size. The decoder leads it through the bytes with a cursor. A cursor keeps a position
and an address, which go together as long as each move sets both. -/

namespace IsaCensus.X86

inductive Mode
  | bits16
  | bits32
  | bits64
deriving DecidableEq, Repr

namespace Mode

def bits : Mode → Nat
  | .bits16 => 16
  | .bits32 => 32
  | .bits64 => 64

/-- The sizes of code that x86 processors run. -/
def ofBits? (bits : Nat) : Except Fault Mode :=
  match bits with
  | 16 => .ok .bits16
  | 32 => .ok .bits32
  | 64 => .ok .bits64
  | _ => .error (.unsupportedArchitecture ("x86 decoder cannot run at bitness " ++ toString bits))

end Mode

/-- The size of code in a container, if it is x86 code. -/
def modeFor (layout : Layout) : Except Fault Mode :=
  if layout.architecture.isX86 then Mode.ofBits? layout.bitness
  else .error (.unsupportedArchitecture layout.architecture.text)

/-- What knows the instructions. It reads the one at a position, to which the pointer points, and
moves both of them on. Its features have names of their own. -/
structure Engine (φ : Type) where
  read : Mode → Bytes → Nat → UInt64 → Instruction φ × Nat × UInt64
  name : φ → String

/-- A position in the bytes, and beside it the pointer to the instruction there. -/
structure Cursor where
  mode : Mode
  bytes : Bytes
  base : UInt64
  position : Nat := 0
  pointer : UInt64 := base + position.toUInt64
deriving DecidableEq, Repr

/-- Moves the position alone, at most to the end of the bytes. -/
def Cursor.place? (cursor : Cursor) (offset : Nat) : Option Cursor :=
  if offset ≤ cursor.bytes.size then some { cursor with position := offset } else none

def Engine.decoder {φ : Type} (engine : Engine φ) (mode : Mode) : Decoder Cursor φ where
  cursor bytes base := { mode, bytes, base, pointer := base }
  seek cursor offset :=
    if cursor.bytes.size ≤ offset then (false, cursor)
    else match cursor.place? offset with
      | some placed => (true, { placed with pointer := cursor.base + offset.toUInt64 })
      | none => (false, cursor)
  hasRemaining cursor := cursor.position < cursor.bytes.size
  decode cursor :=
    let (instruction, position, pointer) := engine.read cursor.mode cursor.bytes cursor.position cursor.pointer
    (instruction, { cursor with position, pointer })

end IsaCensus.X86
