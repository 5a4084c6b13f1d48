/-! The shortest decimal that reads back as a given floating point number. Such a number
stands for all reals that are rounded to it. The decimal is taken from the coarsest grid of
multiples of a power of ten that meets them. -/

namespace IsaCensus

/-- The number `digits · 10 ^ exponent`. -/
structure Decimal where
  digits : Nat
  exponent : Int
deriving DecidableEq, Repr

namespace Decimal

/-- The number `coefficient · 2 ^ exponent` in the binary format of 64 bits. -/
structure Binary where
  coefficient : Nat
  exponent : Int
deriving DecidableEq, Repr

namespace Binary

/-- The least coefficient that has all of its 53 bits. -/
def leastNormal : Nat := 0x10000000000000

/-- A finite number without its sign. -/
def ofBits (bits : UInt64) : Binary :=
  let fraction := (bits &&& 0xfffffffffffff).toNat
  let place := (bits >>> 52 &&& 0x7ff).toNat
  if place = 0 then ⟨fraction, -1074⟩ else ⟨leastNormal + fraction, (place : Int) - 1075⟩

/-- The quarters of a unit of the last place down to the lower end of the reals that are
rounded to the number. Below a power of two the numbers lie twice as close. -/
def quartersBelow (binary : Binary) : Nat :=
  if binary.coefficient = leastNormal ∧ -1074 < binary.exponent then 1 else 2

/-- The power of a base as a fraction. -/
def power (base : Nat) (exponent : Int) : Nat × Nat :=
  if 0 ≤ exponent then (Nat.pow base exponent.toNat, 1) else (1, Nat.pow base (-exponent).toNat)

/-- The multiple of `10 ^ place` that is rounded to the number, the nearer one if there are
two. Both ends of the reals belong to an even coefficient. -/
def onGrid? (binary : Binary) (place : Int) : Option Nat :=
  let (up, down) := power 2 (binary.exponent - 2)
  let (tenUp, tenDown) := power 10 place
  let quarter := up * tenDown
  let unit := down * tenUp
  let value := 4 * binary.coefficient * quarter
  let low := value - binary.quartersBelow * quarter
  let high := value + 2 * quarter
  let inside (n : Nat) : Bool :=
    if binary.coefficient % 2 = 0 then low ≤ n * unit && n * unit ≤ high
    else low < n * unit && n * unit < high
  let below := value / unit
  match inside below, inside (below + 1) with
  | true, true =>
    let short := value - below * unit
    let beyond := (below + 1) * unit - value
    some (if short < beyond ∨ (short = beyond ∧ below % 2 = 0) then below else below + 1)
  | true, false => some below
  | false, true => some (below + 1)
  | false, false => none

/-- The shortest decimal of a number, which is zero for zero only. -/
def shortest (binary : Binary) : Decimal :=
  if binary.coefficient = 0 then ⟨0, 0⟩
  else
    let found := (List.range 634).findSome? fun (step : Nat) =>
      let place := 309 - (step : Int)
      (binary.onGrid? place).map fun n => (⟨n, place⟩ : Decimal)
    found.getD ⟨0, 0⟩

end Binary

/-- How decimals are written. -/
structure Form where
  /-- The numbers from `10 ^ leastPlain` on and below `10 ^ (mostPlain + 1)` are written
  without an exponent. -/
  leastPlain : Int
  mostPlain : Int
deriving DecidableEq, Repr

def zeros (n : Nat) : List Char := List.replicate n '0'

/-- The digits of a decimal with a point and at least one digit on both sides of it. -/
def plainChars (decimal : Decimal) : List Char :=
  let digits := Nat.toDigits 10 decimal.digits
  if 0 ≤ decimal.exponent then digits ++ zeros decimal.exponent.toNat ++ ['.', '0']
  else
    let places := (-decimal.exponent).toNat
    if places < digits.length then
      digits.take (digits.length - places) ++ '.' :: digits.drop (digits.length - places)
    else ['0', '.'] ++ zeros (places - digits.length) ++ digits

/-- The exponent of the first digit. -/
def magnitude (decimal : Decimal) : Int :=
  decimal.exponent + (Nat.toDigits 10 decimal.digits).length - 1

/-- The digits of a decimal with a point after the first, followed by an exponent, which
always has a sign. -/
def scientificChars (decimal : Decimal) : List Char :=
  let sign := if decimal.magnitude < 0 then '-' else '+'
  let mantissa := match Nat.toDigits 10 decimal.digits with
    | [digit] => [digit]
    | digit :: rest => digit :: '.' :: rest
    | [] => []
  mantissa ++ ['e', sign] ++ Nat.toDigits 10 decimal.magnitude.natAbs

def chars (form : Form) (decimal : Decimal) : List Char :=
  if form.leastPlain ≤ decimal.magnitude ∧ decimal.magnitude ≤ form.mostPlain then decimal.plainChars
  else decimal.scientificChars

/-- The text of a finite floating point number. -/
def textOfFloat (form : Form) (x : Float) : String :=
  let bits := x.toBits
  let digits := chars form (Binary.ofBits bits).shortest
  String.ofList (if bits < 0x8000000000000000 then digits else '-' :: digits)

end Decimal

end IsaCensus
