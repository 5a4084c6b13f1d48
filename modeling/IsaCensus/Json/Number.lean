import IsaCensus.Json.Fault

/-! Numbers in a JSON text. A number without fraction and exponent is an integer as long as
it fits 64 bits, with or without sign; all others are rounded. Of the digits of a number those
that fit 64 bits make its significand: what follows them only moves the point. -/

namespace IsaCensus.Json

inductive Number
  | integer (value : Int)
  | decimal (value : Float)
deriving Repr

def digitValue (c : Char) : Nat := c.toNat - '0'.toNat

def startsWithDigit : List Char → Bool
  | c :: _ => c.isDigit
  | [] => false

def startsWithExponent : List Char → Bool
  | c :: _ => c = 'e' || c = 'E'
  | [] => false

/-- Extends a significand by the digits in front as far as it fits 64 bits: the significand,
the number of digits it took, and the rest. -/
def gather (significand : Nat) : List Char → Nat × Nat × List Char
  | [] => (significand, 0, [])
  | c :: rest =>
    if c.isDigit ∧ 10 * significand + digitValue c < UInt64.size then
      let (full, taken, rest) := gather (10 * significand + digitValue c) rest
      (full, taken + 1, rest)
    else (significand, 0, c :: rest)

/-- The significand of the digits before the point, and how many digits it could not take. A
zero in front stands alone. -/
def whole : List Char → Except Fault (Reading (Nat × Nat))
  | [] => .error (.unfinished .value)
  | c :: rest =>
    if ¬ c.isDigit then .error .invalidNumber
    else if c = '0' then
      if startsWithDigit rest then .error .invalidNumber else .ok ((0, 0), rest)
    else
      let (significand, _, rest) := gather 0 (c :: rest)
      .ok ((significand, (rest.takeWhile Char.isDigit).length), rest.dropWhile Char.isDigit)

/-- Extends a significand by the digits after the point, of which there is at least one, and
says how many it took. -/
def fraction (significand : Nat) (input : List Char) : Except Fault (Reading (Nat × Nat)) :=
  let (full, taken, rest) := gather significand input
  if taken = 0 ∧ ¬ startsWithDigit rest then
    .error (if rest.isEmpty then .unfinished .value else .invalidNumber)
  else .ok ((full, taken), rest.dropWhile Char.isDigit)

def natural (digits : List Char) : Nat := digits.foldl (fun n c => 10 * n + digitValue c) 0

/-- The number after an `e` and its sign. -/
def exponentDigits (input : List Char) : Except Fault (Reading Nat) :=
  if startsWithDigit input then
    .ok (natural (input.takeWhile Char.isDigit), input.dropWhile Char.isDigit)
  else .error (if input.isEmpty then .unfinished .value else .invalidNumber)

/-- The exponent in front, which is zero when there is none. -/
def exponent (input : List Char) : Except Fault (Reading Int) :=
  if startsWithExponent input then
    match input.drop 1 with
    | '-' :: rest => (exponentDigits rest).map fun (n, rest) => (-(n : Int), rest)
    | '+' :: rest | rest => (exponentDigits rest).map fun (n, rest) => ((n : Int), rest)
  else .ok (0, input)

def tenTo (n : Nat) : Float := Float.ofScientific 1 false n

/-- The number `significand · 10 ^ exponent`, rounded after each step of at most 308 places.
Steps are taken down only: what one step up does not reach is out of range. -/
def scaled (significand : Nat) (exponent : Int) : Except Fault Float :=
  let value := Float.ofNat significand
  if 0 ≤ exponent then
    if significand = 0 then .ok 0
    else if 308 < exponent then .error .numberOutOfRange
    else
      let value := value * tenTo exponent.toNat
      if value.isInf then .error .numberOutOfRange else .ok value
  else if -308 ≤ exponent then .ok (value / tenTo (-exponent).toNat)
  else if -616 ≤ exponent then .ok (value / tenTo 308 / tenTo (-exponent - 308).toNat)
  else .ok 0

/-- An integer, or a rounded one if it has no place among the integers. Zero has a sign. -/
def signed (negative : Bool) (magnitude : Nat) : Number :=
  if ¬ negative then .integer magnitude
  else if magnitude = 0 ∨ 0x8000000000000000 < magnitude then .decimal (-(Float.ofNat magnitude))
  else .integer (-(magnitude : Int))

/-- The number in front, after its sign. -/
def magnitude (negative : Bool) (input : List Char) : Except Fault (Reading Number) := do
  let ((significand, dropped), rest) ← whole input
  let ((significand, places), rest) ←
    match rest with
    | '.' :: rest => (fraction significand rest).map fun ((full, taken), rest) => ((full, some taken), rest)
    | rest => .ok ((significand, none), rest)
  if places.isNone ∧ dropped = 0 ∧ ¬ startsWithExponent rest then
    return (signed negative significand, rest)
  let (exponent, rest) ← exponent rest
  let value ← scaled significand (dropped - places.getD 0 + exponent)
  return (.decimal (if negative then -value else value), rest)

def number : List Char → Except Fault (Reading Number)
  | '-' :: rest => magnitude true rest
  | input => magnitude false input

def startsNumber : List Char → Bool
  | c :: _ => c = '-' || c.isDigit
  | [] => false

/-- What follows a number that nobody wants to know. Of such a number only the form counts. -/
def afterNumber (input : List Char) : Except Fault (List Char) :=
  let unsigned := match input with
    | '-' :: rest => rest
    | rest => rest
  let digits := unsigned.takeWhile Char.isDigit
  let rest := unsigned.drop digits.length
  if digits = [] ∨ (digits.head? = some '0' ∧ 1 < digits.length) then .error .invalidNumber
  else do
    let rest ← match rest with
      | '.' :: rest => if startsWithDigit rest then .ok (rest.dropWhile Char.isDigit) else .error .invalidNumber
      | rest => .ok rest
    match exponent rest with
    | .ok (_, rest) => .ok rest
    | .error _ => .error .invalidNumber

end IsaCensus.Json
