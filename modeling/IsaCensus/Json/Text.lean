import IsaCensus.Json.Fault

/-! Strings in a JSON text, from their first character on up to the closing quote. -/

namespace IsaCensus.Json

def hexValue? (c : Char) : Option Nat :=
  if c.isDigit then some (c.toNat - '0'.toNat)
  else if 'a' ≤ c ∧ c ≤ 'f' then some (c.toNat - 'a'.toNat + 10)
  else if 'A' ≤ c ∧ c ≤ 'F' then some (c.toNat - 'A'.toNat + 10)
  else none

/-- The number of four digits in front. A text of less than four bytes is unfinished
whatever it holds. -/
def hexQuad (input : List Char) : Except Fault Nat :=
  match (input.take 4).mapM hexValue? with
  | some [a, b, c, d] => .ok (((a * 16 + b) * 16 + c) * 16 + d)
  | _ =>
    let size := (input.take 4).foldr (fun c total => c.utf8Size + total) 0
    .error (if size < 4 then .unfinished .text else .invalidEscape)

def isTrailing (n : Nat) : Bool := 0xdc00 ≤ n && n ≤ 0xdfff

def isLeading (n : Nat) : Bool := 0xd800 ≤ n && n ≤ 0xdbff

/-- The character of one letter that follows a backslash. -/
def letter? : Char → Option Char
  | '"' => some '"'
  | '\\' => some '\\'
  | '/' => some '/'
  | 'b' => some '\x08'
  | 'f' => some '\x0c'
  | 'n' => some '\n'
  | 'r' => some '\r'
  | 't' => some '\t'
  | _ => none

/-- The character whose number follows a `\u`, and the length of what was read. A number
beyond four digits is given by a pair of surrogates. -/
def numbered (input : List Char) : Except Fault (Char × Nat) := do
  let first ← hexQuad input
  if isTrailing first then throw .unpairedSurrogate
  if ¬ isLeading first then return (Char.ofNat first, 4)
  match input.drop 4 with
  | [] => throw (.unfinished .text)
  | ['\\'] => throw (.unfinished .text)
  | '\\' :: 'u' :: rest =>
    let second ← hexQuad rest
    if ¬ isTrailing second then throw .unpairedSurrogate
    return (Char.ofNat ((first - 0xd800) * 1024 + (second - 0xdc00) + 0x10000), 10)
  | _ => throw .unfinishedPair

/-- The character that is meant by what follows a backslash, and the length of that. -/
def escaped : List Char → Except Fault (Char × Nat)
  | [] => .error (.unfinished .text)
  | 'u' :: rest => (numbered rest).map fun (c, length) => (c, length + 1)
  | c :: _ =>
    match letter? c with
    | some meant => .ok (meant, 1)
    | none => .error .invalidEscape

/-- The characters up to the closing quote. -/
def characters : List Char → Except Fault (Reading (List Char))
  | [] => .error (.unfinished .text)
  | c :: rest =>
    if c = '"' then .ok ([], rest)
    else if c = '\\' then do
      let (meant, length) ← escaped rest
      let (others, rest) ← characters (rest.drop length)
      return (meant :: others, rest)
    else if c.toNat < 32 then .error .controlCharacter
    else do
      let (others, rest) ← characters rest
      return (c :: others, rest)
termination_by input => input.length

def text (input : List Char) : Except Fault (Reading String) :=
  (characters input).map fun (chars, rest) => (String.ofList chars, rest)

/-- The length of an escape whose character nobody wants to know. -/
def escapeLength : List Char → Except Fault Nat
  | [] => .error (.unfinished .text)
  | 'u' :: rest => (hexQuad rest).map fun _ => 5
  | c :: _ => if (letter? c).isSome then .ok 1 else .error .invalidEscape

/-- What follows the closing quote of a string that nobody wants to know. -/
def afterText : List Char → Except Fault (List Char)
  | [] => .error (.unfinished .text)
  | c :: rest =>
    if c = '"' then .ok rest
    else if c = '\\' then do
      let length ← escapeLength rest
      afterText (rest.drop length)
    else if c.toNat < 32 then .error .controlCharacter
    else afterText rest
termination_by input => input.length

end IsaCensus.Json
