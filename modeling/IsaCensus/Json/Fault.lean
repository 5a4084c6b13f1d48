import IsaCensus.Decimal.Shortest
import IsaCensus.Text.Quoted

/-! What can be wrong with a JSON text that is read for certain values, and the wording of it. -/

namespace IsaCensus.Json

inductive Bracket
  | square
  | curly
deriving DecidableEq, Repr

/-- What a text can end inside of. -/
inductive Part
  | value
  | list
  | object
  | text
deriving DecidableEq, Repr

/-- A value that stands in the place of another kind of value. -/
inductive Stray
  | null
  | truth (value : Bool)
  | integer (value : Int)
  | decimal (value : Float)
  | text (value : String)
  | list
  | object
deriving Repr

inductive Fault
  | unfinished (part : Part)
  | missingValue
  | misspelledWord
  | missingColon
  | missingComma (inside : Bracket)
  | missingKey
  | trailingComma
  | trailingCharacters
  | invalidNumber
  | numberOutOfRange
  | invalidEscape
  | controlCharacter
  | unpairedSurrogate
  | unfinishedPair
  | unexpected (found : Stray) (expected : String)
  | outOfRange (value : Int) (expected : String)
  | duplicateField (name : String)
  | missingField (name : String)
  | invalidLength (found : Nat) (expected : String)
  | unknownVariant (name : String) (known : List String)
deriving Repr

namespace Bracket

def close : Bracket → Char
  | .square => ']'
  | .curly => '\x7d'

def part : Bracket → Part
  | .square => .list
  | .curly => .object

end Bracket

namespace Part

def name : Part → String
  | .value => "a value"
  | .list => "a list"
  | .object => "an object"
  | .text => "a string"

end Part

namespace Stray

/-- Numbers are written without an exponent if they have at most sixteen digits before the
point, or at most four zeros behind it. -/
def numberForm : Decimal.Form := { leastPlain := -5, mostPlain := 15 }

def description : Stray → String
  | .null => "null"
  | .truth true => "boolean `true`"
  | .truth false => "boolean `false`"
  | .integer value => "integer `" ++ toString value ++ "`"
  | .decimal value => "floating point `" ++ Decimal.textOfFloat numberForm value ++ "`"
  | .text value => "string " ++ Text.quoted value
  | .list => "sequence"
  | .object => "map"

end Stray

namespace Fault

/-- The names that were possible. -/
def oneOf (names : List String) : String :=
  match names.map fun name => "`" ++ name ++ "`" with
  | [] => "nothing"
  | [only] => only
  | [this, that] => this ++ " or " ++ that
  | names => "one of " ++ String.intercalate ", " names

def message : Fault → String
  | .unfinished part => "EOF while parsing " ++ part.name
  | .missingValue => "expected value"
  | .misspelledWord => "expected ident"
  | .missingColon => "expected `:`"
  | .missingComma inside => "expected `,` or `" ++ inside.close.toString ++ "`"
  | .missingKey => "key must be a string"
  | .trailingComma => "trailing comma"
  | .trailingCharacters => "trailing characters"
  | .invalidNumber => "invalid number"
  | .numberOutOfRange => "number out of range"
  | .invalidEscape => "invalid escape"
  | .controlCharacter => "control character (\\u0000-\\u001F) found while parsing a string"
  | .unpairedSurrogate => "lone leading surrogate in hex escape"
  | .unfinishedPair => "unexpected end of hex escape"
  | .unexpected found expected => "invalid type: " ++ found.description ++ ", expected " ++ expected
  | .outOfRange value expected =>
    "invalid value: integer `" ++ toString value ++ "`, expected " ++ expected
  | .duplicateField name => "duplicate field `" ++ name ++ "`"
  | .missingField name => "missing field `" ++ name ++ "`"
  | .invalidLength found expected => "invalid length " ++ toString found ++ ", expected " ++ expected
  | .unknownVariant name known => "unknown variant `" ++ name ++ "`, expected " ++ oneOf known

end Fault

/-- What is read from the front of a text, and the rest of the text. -/
abbrev Reading (α : Type) := α × List Char

def isBlank (c : Char) : Bool := c = ' ' || c = '\n' || c = '\t' || c = '\r'

/-- A text from its first character on that is not blank. -/
def trimmed (input : List Char) : List Char := input.dropWhile isBlank

/-- The rest of a text that starts with a word. -/
def afterWord : List Char → List Char → Except Fault (List Char)
  | [], input => .ok input
  | _ :: _, [] => .error (.unfinished .value)
  | expected :: word, c :: rest => if c = expected then afterWord word rest else .error .misspelledWord

end IsaCensus.Json
