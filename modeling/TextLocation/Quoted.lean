import TextLocation.Character.Extending
import TextLocation.Character.Ignorable
import TextLocation.Character.Unprintable

namespace TextLocation

/-- A code point by its number, in as few hexadecimal digits as it takes. -/
def escapeByNumber (c : Char) : List Char :=
  ['\\', 'u', '\x7b'] ++ Nat.toDigits 16 c.toNat ++ ['\x7d']

/-- How a character is written between quotes. Characters that would not be seen, or would be seen
on the character before them, are written by number. -/
def escape : Char → List Char
  | '"' => ['\\', '"']
  | '\\' => ['\\', '\\']
  | '\x00' => ['\\', '0']
  | '\t' => ['\\', 't']
  | '\n' => ['\\', 'n']
  | '\r' => ['\\', 'r']
  | c =>
    if isExtending c || isUnprintable c || isIgnorable c then escapeByNumber c else [c]

def quoted (chars : List Char) : String :=
  String.ofList ('"' :: chars.flatMap escape ++ ['"'])

end TextLocation
