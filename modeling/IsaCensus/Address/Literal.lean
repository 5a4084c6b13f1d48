import IsaCensus.Text.Numeral

/-! Addresses as they are given on a command line: hexadecimal behind `0x`, otherwise decimal. -/

namespace IsaCensus

structure AddressFault where
  text : String
  cause : Text.NumeralFault
deriving DecidableEq, Repr

def AddressFault.message (fault : AddressFault) : String :=
  "invalid address '" ++ fault.text ++ "': " ++ fault.cause.message

def addressNumber : List Char → Except Text.NumeralFault Nat
  | '0' :: 'x' :: digits => Text.numeral 16 digits
  | '0' :: 'X' :: digits => Text.numeral 16 digits
  | digits => Text.numeral 10 digits

def parseAddress (text : String) : Except AddressFault UInt64 :=
  match addressNumber text.toList with
  | .ok number => .ok number.toUInt64
  | .error cause => .error { text, cause }

end IsaCensus
