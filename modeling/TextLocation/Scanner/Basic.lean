import TextLocation.Scanner.Test
import TextLocation.Span

namespace TextLocation

/-- A reader that moves through a source. Reading is strict, moving stops at the end of the text. -/
structure Scanner where
  source : Source
  offset : Nat

/-- A scanner at the start of the source. -/
def Source.scanner (source : Source) : Scanner := ⟨source, 0⟩

/-- Where a scanner has come to after passing the characters that a test accepts. -/
structure Skipped (σ : Type) where
  /-- The characters passed. -/
  span : Span
  scanner : Scanner
  /-- The state in which the test was left. -/
  state : σ

namespace Scanner

variable {σ : Type}

/-- The text ahead. -/
def rest (scanner : Scanner) : List Char := scanner.source.text.drop scanner.offset

def isEnd (scanner : Scanner) : Bool := scanner.offset == scanner.source.length

/-- The number of characters ahead. -/
def remaining (scanner : Scanner) : Nat := scanner.source.length - scanner.offset

/-- The character ahead, if any. -/
def peek (scanner : Scanner) : Option Char := scanner.source.text[scanner.offset]?

/-- The next `count` characters; fewer will not do. -/
def peekRun (scanner : Scanner) (count : Nat) : Except LocationError Run :=
  if count ≤ scanner.remaining then
    scanner.source.slice scanner.offset (scanner.offset + count)
  else
    .error (.peekPastEnd count scanner.remaining)

/-- Passes one character, if there is one. -/
def skip (scanner : Scanner) : Scanner :=
  if scanner.offset < scanner.source.length then
    { scanner with offset := scanner.offset + 1 }
  else scanner

/-- Passes `count` characters, or all that are left. -/
def skipN (scanner : Scanner) (count : Nat) : Scanner :=
  { scanner with offset := min (scanner.offset + count) scanner.source.length }

/-- Passes the characters that the test accepts, up to the first that it refuses. -/
def skipWhile (scanner : Scanner) (test : Test σ) (state : σ) : Skipped σ :=
  let (count, final) := test.run state scanner.rest
  { span := ⟨scanner.source, scanner.offset, scanner.offset + count⟩
    scanner := { scanner with offset := scanner.offset + count }
    state := final }

def position (scanner : Scanner) : Position := ⟨scanner.source, scanner.offset⟩

/-- Moves to a position, forwards or backwards, having checked that it is of the same source. -/
def moveTo (p : Position) : EStateM Halt Scanner Unit := do
  let scanner ← get
  MonadExcept.ofExcept (orHalt (scanner.source.requireOwn p))
  set { scanner with offset := p.offset }

/-- The character ahead as a span, which is empty at the end. -/
def charSpan (scanner : Scanner) : Span :=
  ⟨scanner.source, scanner.offset, if scanner.isEnd then scanner.offset else scanner.offset + 1⟩

/-- From a position up to where the scanner is. -/
def spanFrom (scanner : Scanner) (start : Position) : Except Halt Span :=
  scanner.source.spanOrHalt start scanner.position

def spanBetween (scanner : Scanner) (start stop : Position) : Except Halt Span :=
  scanner.source.spanOrHalt start stop

end Scanner

end TextLocation
