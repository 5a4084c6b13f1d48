import IsaCensus.Bytes

/-! Tables of zero-terminated strings inside an image. -/

namespace IsaCensus

/-- A string table reaches from `start` up to `stop`. -/
structure StringTable where
  start : Nat
  stop : Nat
deriving DecidableEq, Repr

namespace StringTable

/-- The bytes of the string at an offset of the table. The rest of the table has to lie in
the image, and the string has to end in it. -/
def bytes? (table : StringTable) (image : Bytes) (offset : Nat) : Option Bytes := do
  guard (table.start + offset ≤ table.stop ∧ table.stop ≤ image.size)
  let text ← image.terminated? (table.start + offset)
  guard (table.start + offset + text.size < table.stop)
  return text

end StringTable

/-- Bytes as text, which is empty when they are not UTF-8. -/
def textOrEmpty (bytes : Bytes) : String := (String.fromUTF8? ⟨bytes⟩).getD ""

/-- The name at an offset of a table, or the empty name when there is none. -/
def nameOrEmpty (table : Option StringTable) (image : Bytes) (offset : Nat) : String :=
  match table.bind (·.bytes? image offset) with
  | some bytes => textOrEmpty bytes
  | none => ""

/-- The places of `count` records of a size, if they all lie in the image. -/
def recordPlaces (image : Bytes) (offset count size : Nat) : Option (List Nat) :=
  if count * size = 0 ∨ offset + count * size ≤ image.size then
    some ((List.range count).map fun i => offset + i * size)
  else none

end IsaCensus
