import IsaCensus.Json.Unread

/-! Reading records from a JSON text. A record is an object of its fields in any order, or a
list of its fields in their own order; fields that are left out keep what they had, and members
that are no fields are passed over. The first fault in reading order is the one reported. -/

namespace IsaCensus.Json

/-- The value in front, as far as its kind has to be told. -/
def stray : List Char → Except Fault Stray
  | 'n' :: rest => (afterWord ['u', 'l', 'l'] rest).map fun _ => .null
  | 't' :: rest => (afterWord ['r', 'u', 'e'] rest).map fun _ => .truth true
  | 'f' :: rest => (afterWord ['a', 'l', 's', 'e'] rest).map fun _ => .truth false
  | '"' :: rest => (text rest).map fun (value, _) => .text value
  | '[' :: _ => .ok .list
  | '\x7b' :: _ => .ok .object
  | input =>
    if startsNumber input then do
      match ← number input with
      | (.integer value, _) => return .integer value
      | (.decimal value, _) => return .decimal value
    else .error .missingValue

/-- The fault of a text whose value in front is not of the kind that is expected. -/
def wrongKind (input : List Char) (expected : String) : Fault :=
  match input, stray input with
  | [], _ => .unfinished .value
  | _, .ok found => .unexpected found expected
  | _, .error fault => fault

/-- An integer of 64 bits without sign. -/
def word (expected : String) (input : List Char) : Except Fault (Reading UInt64) :=
  if startsNumber (trimmed input) then do
    match ← number (trimmed input) with
    | (.integer value, rest) =>
      if value < 0 then throw (.outOfRange value expected) else return (value.toNat.toUInt64, rest)
    | (.decimal value, _) => throw (.unexpected (.decimal value) expected)
  else .error (wrongKind (trimmed input) expected)

def truth (input : List Char) : Except Fault (Reading Bool) :=
  match trimmed input with
  | 't' :: rest => (afterWord ['r', 'u', 'e'] rest).map fun rest => (true, rest)
  | 'f' :: rest => (afterWord ['a', 'l', 's', 'e'] rest).map fun rest => (false, rest)
  | rest => .error (wrongKind rest "a boolean")

/-- A value that may be missing, which is written as null. -/
def optional {α : Type} (read : List Char → Except Fault (Reading α)) (input : List Char) :
    Except Fault (Reading (Option α)) :=
  match trimmed input with
  | 'n' :: rest => (afterWord ['u', 'l', 'l'] rest).map fun rest => (none, rest)
  | rest => (read rest).map fun (value, rest) => (some value, rest)

/-- Whether a list goes on, and the text from its next item on or behind its end. -/
def nextItem (first : Bool) (input : List Char) : Except Fault (Reading Bool) :=
  match trimmed input with
  | [] => .error (.unfinished .list)
  | c :: rest =>
    if c = ']' then .ok (false, rest)
    else if first then .ok (true, c :: rest)
    else if c = ',' then
      match trimmed rest with
      | ']' :: _ => .error .trailingComma
      | rest => .ok (true, rest)
    else .error (.missingComma .square)

/-- The items of a list up to its end. -/
def items {α : Type} (read : List Char → Except Fault (Reading α)) :
    Nat → Bool → List Char → Except Fault (Reading (List α))
  | 0, _, _ => .error (.unfinished .list)
  | fuel + 1, first, input => do
    match ← nextItem first input with
    | (false, rest) => return ([], rest)
    | (true, rest) =>
      let (value, rest) ← read rest
      let (others, rest) ← items read fuel false rest
      return (value :: others, rest)

def list {α : Type} (read : List Char → Except Fault (Reading α)) (input : List Char) :
    Except Fault (Reading (List α)) :=
  match trimmed input with
  | '[' :: rest => items read (rest.length + 1) true rest
  | rest => .error (wrongKind rest "a sequence")

/-- A field of a record, with what its value in a text makes of the record. -/
structure FieldReader (ρ : Type) where
  name : String
  read : ρ → List Char → Except Fault (Reading ρ)

/-- The field whose value is read and then set. -/
def FieldReader.of {ρ α : Type} (name : String) (read : List Char → Except Fault (Reading α))
    (set : ρ → α → ρ) : FieldReader ρ where
  name
  read record input := (read input).map fun (value, rest) => (set record value, rest)

/-- The name of the next member if an object goes on, and the text behind the name or behind
the end of the object. -/
def nextName (first : Bool) (input : List Char) : Except Fault (Reading (Option String)) :=
  let name (rest : List Char) := (text rest).map fun (name, rest) => (some name, rest)
  match trimmed input with
  | [] => .error (.unfinished .object)
  | c :: rest =>
    if c = '\x7d' then .ok (none, rest)
    else if first then if c = '"' then name rest else .error .missingKey
    else if c = ',' then
      match trimmed rest with
      | [] => .error (.unfinished .value)
      | '\x7d' :: _ => .error .trailingComma
      | '"' :: rest => name rest
      | _ => .error .missingKey
    else .error (.missingComma .curly)

section

variable {ρ : Type}

/-- The members of an object up to its end. No field may come twice. -/
def members (fields : List (FieldReader ρ)) :
    Nat → List String → Bool → ρ → List Char → Except Fault (Reading ρ)
  | 0, _, _, _, _ => .error (.unfinished .object)
  | fuel + 1, seen, first, record, input => do
    match ← nextName first input with
    | (none, rest) => return (record, rest)
    | (some name, rest) =>
      match fields.find? (·.name = name) with
      | none =>
        let rest ← afterColon rest
        let rest ← afterValue rest
        members fields fuel seen false record rest
      | some field =>
        if name ∈ seen then throw (.duplicateField name)
        let rest ← afterColon rest
        let (record, rest) ← field.read record rest
        members fields fuel (name :: seen) false record rest

/-- The text behind a list whose items were all read. -/
def listEnd (input : List Char) : Except Fault (List Char) :=
  match trimmed input with
  | [] => .error (.unfinished .list)
  | ']' :: rest => .ok rest
  | ',' :: rest =>
    match trimmed rest with
    | ']' :: _ => .error .trailingComma
    | _ => .error .trailingCharacters
  | _ => .error .trailingCharacters

/-- The fields of a record in their own order, as far as a list has them. -/
def positional : List (FieldReader ρ) → Bool → ρ → List Char → Except Fault (Reading ρ)
  | [], _, record, input => (listEnd input).map fun rest => (record, rest)
  | field :: fields, first, record, input => do
    match ← nextItem first input with
    | (false, rest) => return (record, rest)
    | (true, rest) =>
      let (record, rest) ← field.read record rest
      positional fields false record rest

/-- A record, starting from what it has when all fields are left out. -/
def record (expected : String) (fields : List (FieldReader ρ)) (start : ρ) (input : List Char) :
    Except Fault (Reading ρ) :=
  match trimmed input with
  | '[' :: rest => positional fields true start rest
  | '\x7b' :: rest => members fields (rest.length + 1) [] true start rest
  | rest => .error (wrongKind rest expected)

end

/-- Reads a text that holds one value and nothing else. -/
def document {α : Type} (read : List Char → Except Fault (Reading α)) (text : String) : Except Fault α := do
  let (value, rest) ← read text.toList
  if trimmed rest = [] then return value else throw .trailingCharacters

end IsaCensus.Json
