import IsaCensus.Json.Record

/-! Reading values of other shapes from a JSON text: strings, counts, named cases, objects that list
values by any names, and records that have to have all their fields. -/

namespace IsaCensus.Json

def string (input : List Char) : Except Fault (Reading String) :=
  match trimmed input with
  | '"' :: rest => text rest
  | rest => .error (wrongKind rest "a string")

/-- An integer without sign that is below the limit of its kind, which is at most that of a word. -/
def count (expected : String) (limit : Nat) (input : List Char) : Except Fault (Reading Nat) := do
  let (value, rest) ← word expected input
  if value.toNat < limit then return (value.toNat, rest) else throw (.outOfRange value.toNat expected)

/-- The case that a name stands for. -/
def named {α : Type} (known : List String) (ofName? : String → Option α) (name : String) : Except Fault α :=
  match ofName? name with
  | some value => .ok value
  | none => .error (.unknownVariant name known)

/-- One of some cases, by its name. The name can also stand in an object, before a null. -/
def variant {α : Type} (known : List String) (ofName? : String → Option α) (input : List Char) :
    Except Fault (Reading α) :=
  match trimmed input with
  | [] => .error (.unfinished .value)
  | '"' :: rest => do
    let (name, rest) ← text rest
    let value ← named known ofName? name
    return (value, rest)
  | '\x7b' :: rest => do
    let (name, rest) ← match trimmed rest with
      | '"' :: rest => text rest
      | rest => throw (wrongKind rest "variant identifier")
    let value ← named known ofName? name
    let rest ← afterColon rest
    let rest ← match trimmed rest with
      | 'n' :: rest => afterWord ['u', 'l', 'l'] rest
      | rest => throw (wrongKind rest "unit")
    match trimmed rest with
    | '\x7d' :: rest => return (value, rest)
    | [] => throw (.unfinished .object)
    | _ => throw .missingValue
  | _ => .error .missingValue

section

variable {α : Type}

/-- The entries of an object up to its end, in the order in which they stand there. -/
def entries (read : List Char → Except Fault (Reading α)) :
    Nat → Bool → List Char → Except Fault (Reading (List (String × α)))
  | 0, _, _ => .error (.unfinished .object)
  | fuel + 1, first, input => do
    match ← nextName first input with
    | (none, rest) => return ([], rest)
    | (some name, rest) =>
      let rest ← afterColon rest
      let (value, rest) ← read rest
      let (others, rest) ← entries read fuel false rest
      return ((name, value) :: others, rest)

/-- An object that lists values by any names. -/
def table (read : List Char → Except Fault (Reading α)) (input : List Char) :
    Except Fault (Reading (List (String × α))) :=
  match trimmed input with
  | '\x7b' :: rest => entries read (rest.length + 1) true rest
  | rest => .error (wrongKind rest "a map")

end

section

variable {ρ : Type}

/-- A field that is noted when it is read. -/
def FieldReader.noted (field : FieldReader ρ) : FieldReader (ρ × List String) where
  name := field.name
  read := fun (record, found) input =>
    (field.read record input).map fun (record, rest) => ((record, field.name :: found), rest)

/-- What is missing of a record in a text. A list has to go on to the last field, and an object has
to name every field that is not optional. -/
def missing? (expected : String) (fields : List (FieldReader ρ)) (optional found : List String)
    (input : List Char) : Option Fault :=
  match opening (trimmed input) with
  | some (.square, _) =>
    if found.length < fields.length then
      some (.invalidLength found.length (expected ++ " with " ++ toString fields.length ++ " elements"))
    else none
  | _ => (fields.find? fun field => field.name ∉ found ++ optional).map fun field => .missingField field.name

/-- A record that has to have its fields. Those that are optional can be missing in an object. -/
def wholeRecord (expected : String) (fields : List (FieldReader ρ)) (optional : List String) (start : ρ)
    (input : List Char) : Except Fault (Reading ρ) := do
  let ((record, found), rest) ← record expected (fields.map FieldReader.noted) (start, []) input
  match missing? expected fields optional found input with
  | some fault => throw fault
  | none => return (record, rest)

end

end IsaCensus.Json
