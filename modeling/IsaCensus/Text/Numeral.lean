/-! Numbers of 64 bits written in digits of a base. A plus sign may stand in front, and any
number of zeros. -/

namespace IsaCensus.Text

inductive NumeralFault
  | empty
  | invalidDigit
  | tooLarge
deriving DecidableEq, Repr

namespace NumeralFault

def message : NumeralFault → String
  | .empty => "cannot parse integer from empty string"
  | .invalidDigit => "invalid digit found in string"
  | .tooLarge => "number too large to fit in target type"

end NumeralFault

def digit? (base : Nat) (c : Char) : Option Nat :=
  let value :=
    if '0' ≤ c ∧ c ≤ '9' then c.toNat - '0'.toNat
    else if 'a' ≤ c ∧ c ≤ 'z' then c.toNat - 'a'.toNat + 10
    else if 'A' ≤ c ∧ c ≤ 'Z' then c.toNat - 'A'.toNat + 10
    else base
  if value < base then some value else none

/-- The number of some digits after earlier ones. The first fault in reading order counts. -/
def digitsFrom (base : Nat) : Nat → List Char → Except NumeralFault Nat
  | number, [] => .ok number
  | number, c :: rest =>
    match digit? base c with
    | none => .error .invalidDigit
    | some digit =>
      if number * base + digit < UInt64.size then digitsFrom base (number * base + digit) rest
      else .error .tooLarge

def numeral (base : Nat) : List Char → Except NumeralFault Nat
  | [] => .error .empty
  | ['+'] => .error .invalidDigit
  | '+' :: digits => digitsFrom base 0 digits
  | digits => digitsFrom base 0 digits

end IsaCensus.Text
