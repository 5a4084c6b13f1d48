/-! Numbers in text: lower-case hexadecimal with its `0x`, optionally filled with zeros. -/

namespace IsaCensus.Text

def hexDigits (n : Nat) : String := String.ofList (Nat.toDigits 16 n)

def hex (n : Nat) : String := "0x" ++ hexDigits n

/-- A byte is always written with two digits. -/
def hexByte (n : UInt8) : String :=
  if n < 16 then "0x0" ++ hexDigits n.toNat else hex n.toNat

end IsaCensus.Text
