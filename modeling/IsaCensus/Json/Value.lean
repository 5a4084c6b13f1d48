/-! JSON values and their text. Text is indented by two spaces a level, with one element or
member a line. Members keep the order in which they are given. -/

namespace IsaCensus.Json

/-- A JSON value without signs and fractions, which no report needs. -/
inductive Value
  | null
  | bool (value : Bool)
  | number (value : Nat)
  | text (value : String)
  | list (items : List Value)
  | object (members : List (String × Value))
deriving Repr

namespace Value

/-- The lower-case digit of a number below sixteen. -/
def hexDigit (n : Nat) : Char := Nat.digitChar n

/-- Quotes, backslashes and control characters are escaped, the common ones by a letter. -/
def escape (c : Char) : List Char :=
  match c with
  | '"' => ['\\', '"']
  | '\\' => ['\\', '\\']
  | '\n' => ['\\', 'n']
  | '\r' => ['\\', 'r']
  | '\t' => ['\\', 't']
  | '\x08' => ['\\', 'b']
  | '\x0c' => ['\\', 'f']
  | c =>
    if c.toNat < 32 then ['\\', 'u', '0', '0', hexDigit (c.toNat / 16), hexDigit (c.toNat % 16)]
    else [c]

def quote (text : String) : List Char := '"' :: (text.toList.flatMap escape ++ ['"'])

def newLine (level : Nat) : List Char := '\n' :: List.replicate (2 * level) ' '

mutual

def chars (level : Nat) : Value → List Char
  | .null => ['n', 'u', 'l', 'l']
  | .bool true => ['t', 'r', 'u', 'e']
  | .bool false => ['f', 'a', 'l', 's', 'e']
  | .number n => Nat.toDigits 10 n
  | .text s => quote s
  | .list [] => ['[', ']']
  | .list (first :: rest) =>
    '[' :: (newLine (level + 1) ++ first.chars (level + 1) ++ itemChars (level + 1) rest ++
      newLine level ++ [']'])
  | .object [] => ['\x7b', '\x7d']
  | .object (first :: rest) =>
    '\x7b' :: (newLine (level + 1) ++ memberChar (level + 1) first ++ memberChars (level + 1) rest ++
      newLine level ++ ['\x7d'])

def itemChars (level : Nat) : List Value → List Char
  | [] => []
  | first :: rest => ',' :: (newLine level ++ first.chars level ++ itemChars level rest)

def memberChar (level : Nat) : String × Value → List Char
  | (name, value) => quote name ++ [':', ' '] ++ value.chars level

def memberChars (level : Nat) : List (String × Value) → List Char
  | [] => []
  | first :: rest => ',' :: (newLine level ++ memberChar level first ++ memberChars level rest)

end

def render (value : Value) : String := String.ofList (value.chars 0)

mutual

/-- The same value with the members of every object in the order of their names. -/
def sorted : Value → Value
  | .list items => .list (sortedItems items)
  | .object members => .object ((sortedMembers members).mergeSort fun a b => a.1 ≤ b.1)
  | value => value

def sortedItems : List Value → List Value
  | [] => []
  | first :: rest => first.sorted :: sortedItems rest

def sortedMember : String × Value → String × Value
  | (name, value) => (name, value.sorted)

def sortedMembers : List (String × Value) → List (String × Value)
  | [] => []
  | first :: rest => sortedMember first :: sortedMembers rest

end

end Value

end IsaCensus.Json
