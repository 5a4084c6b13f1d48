import IsaCensus.Text.Hex
import IsaCensus.Text.Unprintable

/-! Text between quotes for messages, in which every character can be seen. -/

namespace IsaCensus.Text

/-- Quotes and backslashes follow a backslash. A character that would leave no mark is
written by a letter or by its number. -/
def visible (c : Char) : List Char :=
  match c with
  | '\x00' => ['\\', '0']
  | '\t' => ['\\', 't']
  | '\r' => ['\\', 'r']
  | '\n' => ['\\', 'n']
  | '\\' => ['\\', '\\']
  | '"' => ['\\', '"']
  | c =>
    if unprintable c then ['\\', 'u', '\x7b'] ++ Nat.toDigits 16 c.toNat ++ ['\x7d'] else [c]

def quoted (text : String) : String := String.ofList ('"' :: (text.toList.flatMap visible ++ ['"']))

end IsaCensus.Text
