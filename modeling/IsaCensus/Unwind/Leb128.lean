/-! Numbers in groups of seven bits, the lowest first. Every byte but the last has its top
bit set. A number fills 64 bits at most: of the tenth byte only one bit counts. -/

namespace IsaCensus.Unwind

/-- An unsigned number after `place` earlier bytes, and how many bytes it takes. -/
def unsigned : Nat → List UInt8 → Option (Nat × Nat)
  | _, [] => none
  | place, byte :: rest =>
    if place = 9 ∧ 1 < byte then none
    else if byte < 0x80 then some (byte.toNat, 1)
    else (unsigned (place + 1) rest).map fun (high, length) => (byte.toNat - 128 + 128 * high, length + 1)

/-- The value of the last group of a signed number: its sixth bit is the sign. -/
def signedGroup (byte : UInt8) : Int :=
  if byte < 0x40 then byte.toNat else (byte.toNat : Int) - 128

/-- A signed number after `place` earlier bytes, and how many bytes it takes. -/
def signed : Nat → List UInt8 → Option (Int × Nat)
  | _, [] => none
  | place, byte :: rest =>
    if place = 9 ∧ byte ≠ 0 ∧ byte ≠ 0x7f then none
    else if byte < 0x80 then some (signedGroup byte, 1)
    else (signed (place + 1) rest).map fun (high, length) =>
      ((byte.toNat : Int) - 128 + 128 * high, length + 1)

end IsaCensus.Unwind
