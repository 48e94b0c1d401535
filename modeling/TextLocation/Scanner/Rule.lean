import TextLocation.Character.Blank
import TextLocation.Scanner.Test

namespace TextLocation

/-- Classes of characters. -/
inductive CharClass where
  | any
  | empty
  | blank
  | asciiLetter
  | asciiDigit
  /-- ASCII letters, ASCII digits and the underscore. -/
  | asciiWord
  | ascii
  | among (chars : List Char)
  | notAmong (chars : List Char)
  | between (low high : Char)

namespace CharClass

def contains : CharClass → Char → Bool
  | any, _ => true
  | empty, _ => false
  | blank, c => isBlank c
  | asciiLetter, c => c.isAlpha
  | asciiDigit, c => c.isDigit
  | asciiWord, c => c.isAlphanum || c == '_'
  | ascii, c => c.toNat < 0x80
  | among chars, c => chars.contains c
  | notAmong chars, c => !chars.contains c
  | between low high, c => low ≤ c && c ≤ high

end CharClass

/-- What a scanner may be told to pass: characters of a class, or so many characters of any kind. -/
inductive Rule where
  | ofClass (cls : CharClass)
  | first (count : Nat)

namespace Rule

/-- The state of a rule is the rule that holds for the characters still to come. -/
def test : Test Rule where
  step
    | .ofClass cls, c => (cls.contains c, .ofClass cls)
    | .first 0, _ => (false, .first 0)
    | .first (count + 1), _ => (true, .first count)

end Rule

end TextLocation
