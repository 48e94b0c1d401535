import TextLocation.Line.Walk

namespace TextLocation

/-- A walk that notes where two offsets are as it passes them. -/
structure PairWalk where
  walk : LineWalk
  start? : Option LineColumn
  stop? : Option LineColumn
  deriving DecidableEq

namespace PairWalk

def start : PairWalk := ⟨.start, none, none⟩

/-- Notes the location ahead at each of the two offsets, then passes one character. -/
def step (start stop : Nat) (pair : PairWalk) (c : Char) : PairWalk where
  walk := pair.walk.step c
  start? := if pair.walk.offset = start then some pair.walk.location else pair.start?
  stop? := if pair.walk.offset = stop then some pair.walk.location else pair.stop?

/-- What was noted; an offset not yet passed is where the walk ended. -/
def locations (pair : PairWalk) : LineColumn × LineColumn :=
  (pair.start?.getD pair.walk.location, pair.stop?.getD pair.walk.location)

end PairWalk

/-- The lines and columns of two offsets, in one walk to the farther of them. -/
def lineColumnsAt (text : List Char) (start stop : Nat) : LineColumn × LineColumn :=
  ((text.take (max start stop)).foldl (PairWalk.step start stop) .start).locations

end TextLocation
