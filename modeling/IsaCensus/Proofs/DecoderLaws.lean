import IsaCensus.Address
import IsaCensus.Instruction

/-! What a well-behaved decoder promises. Its cursors have a position in the bytes of their
region, go where they are told to go, and move on by the length of what they decode. A
lawful decoder also reads the same instruction at a place however it came there. -/

namespace IsaCensus

variable {κ φ : Type}

namespace Decoder

/-- Cursors whose positions can be told. `Stands bytes base position cursor` says that a cursor
over the bytes, loaded at the base, is at the position. Nothing is promised of a cursor that
was refused a position, nor of decoding behind the last byte. -/
structure Tracked (decoder : Decoder κ φ) where
  Stands : Bytes → UInt64 → Nat → κ → Prop
  opened : ∀ bytes base, Stands bytes base 0 (decoder.cursor bytes base)
  seek_accepts : ∀ {bytes base position cursor} offset, Stands bytes base position cursor →
    ((decoder.seek cursor offset).1 = true ↔ offset < bytes.size)
  seek_moves : ∀ {bytes base position cursor offset}, Stands bytes base position cursor → offset < bytes.size →
    Stands bytes base offset (decoder.seek cursor offset).2
  decode_address : ∀ {bytes base position cursor}, Stands bytes base position cursor → position < bytes.size →
    (decoder.decode cursor).1.address = base + position.toUInt64
  decode_length : ∀ {bytes base position cursor}, Stands bytes base position cursor → position < bytes.size →
    position + (decoder.decode cursor).1.length ≤ bytes.size
  decode_next : ∀ {bytes base position cursor}, Stands bytes base position cursor → position < bytes.size →
    (decoder.decode cursor).1.next = (decoder.decode cursor).1.address + (decoder.decode cursor).1.length.toUInt64
  decode_moves : ∀ {bytes base position cursor}, Stands bytes base position cursor → position < bytes.size →
    Stands bytes base (position + (decoder.decode cursor).1.length) (decoder.decode cursor).2

/-- A decoder that sees the end of its bytes, and whose instructions depend on nothing but the
bytes, where they are loaded and the position. -/
structure Lawful (decoder : Decoder κ φ) extends Tracked decoder where
  hasRemaining_iff : ∀ {bytes base position cursor}, Stands bytes base position cursor →
    (decoder.hasRemaining cursor = true ↔ position < bytes.size)
  reading : Bytes → UInt64 → Nat → Instruction φ
  decode_reads : ∀ {bytes base position cursor}, Stands bytes base position cursor → position < bytes.size →
    (decoder.decode cursor).1 = reading bytes base position

/-- The instruction that a lawful decoder reads at the place to which an address resolves. -/
def Lawful.instructionAt? {decoder : Decoder κ φ} (lawful : decoder.Lawful) (space : Space) (address : UInt64) :
    Option (Instruction φ) := do
  let location ← space.resolve address
  let region ← space.regions[location.region]?
  return lawful.reading region.bytes region.base location.offset

end Decoder

end IsaCensus
