import TextLocation.Line.Walk

namespace TextLocation

/-- A line of a text, looked up by one of its offsets. -/
structure LineBounds where
  /-- The location of the offset that was looked up. -/
  location : LineColumn
  /-- The offset of the first character of the line. -/
  start : Nat
  /-- The offset of the newline that ends the line, or the length of the text. -/
  stop : Nat
  deriving DecidableEq

/-- The line of an offset. The offset of a newline belongs to the line it ends. -/
def lineBoundsAt (text : List Char) (offset : Nat) : LineBounds :=
  let walk := LineWalk.through (text.take offset)
  { location := walk.location
    start := walk.lineStart
    stop := walk.offset + ((text.drop offset).takeWhile (· ≠ '\n')).length }

end TextLocation
