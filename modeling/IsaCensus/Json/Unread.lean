import IsaCensus.Json.Number
import IsaCensus.Json.Text

/-! Values in a JSON text that nobody wants to know. They may nest to any depth, and only
their form is looked at. -/

namespace IsaCensus.Json

/-- The text after the colon between a name and its value. -/
def afterColon (input : List Char) : Except Fault (List Char) :=
  match trimmed input with
  | [] => .error (.unfinished .object)
  | ':' :: rest => .ok rest
  | _ => .error .missingColon

/-- What follows a value without brackets. -/
def afterScalar : List Char → Except Fault (List Char)
  | [] => .error (.unfinished .value)
  | 'n' :: rest => afterWord ['u', 'l', 'l'] rest
  | 't' :: rest => afterWord ['r', 'u', 'e'] rest
  | 'f' :: rest => afterWord ['a', 'l', 's', 'e'] rest
  | '"' :: rest => afterText rest
  | input => if startsNumber input then afterNumber input else .error .missingValue

def opening : List Char → Option (Bracket × List Char)
  | '[' :: rest => some (.square, rest)
  | '\x7b' :: rest => some (.curly, rest)
  | _ => none

/-- Reads the brackets that close after a value and the comma after them, and gives the
brackets that are still open. -/
def closing : List Bracket → List Char → Except Fault (Reading (List Bracket))
  | [], input => .ok ([], input)
  | inner :: outer, input =>
    match trimmed input with
    | [] => .error (.unfinished inner.part)
    | c :: rest =>
      if c = inner.close then closing outer rest
      else if c = ',' then .ok (inner :: outer, rest)
      else .error (.missingComma inner)

/-- Reads past a value without items, or into a value up to its first item, and gives the
brackets that are open there. None is open when the outermost value is over. -/
def advance (outer : List Bracket) (input : List Char) : Except Fault (Reading (List Bracket)) :=
  match opening (trimmed input) with
  | none => do
    let rest ← afterScalar (trimmed input)
    closing outer rest
  | some (inner, rest) =>
    match trimmed rest with
    | [] => .error (.unfinished inner.part)
    | c :: rest => if c = inner.close then closing outer rest else .ok (inner :: outer, c :: rest)

/-- The text from the value of an item on. In an object it follows a name. -/
def itemValue : Bracket → List Char → Except Fault (List Char)
  | .square, input => .ok input
  | .curly, input =>
    match trimmed input with
    | [] => .error (.unfinished .object)
    | '"' :: rest => do
      let rest ← afterText rest
      afterColon rest
    | _ => .error .missingKey

/-- What follows a value and all that the open brackets around it still hold. -/
def afterValues : Nat → List Bracket → List Char → Except Fault (List Char)
  | 0, _, _ => .error (.unfinished .value)
  | fuel + 1, outer, input => do
    match ← advance outer input with
    | ([], rest) => return rest
    | (inner :: outer, rest) =>
      let rest ← itemValue inner rest
      afterValues fuel (inner :: outer) rest

/-- What follows the value in front. Every step reads a character at least. -/
def afterValue (input : List Char) : Except Fault (List Char) := afterValues (input.length + 1) [] input

end IsaCensus.Json
