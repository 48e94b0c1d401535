import TextLocation.Run.Basic

namespace TextLocation

/-- The two ends of a run. -/
inductive Side where
  | front
  | back
  deriving DecidableEq

/-- A run from which characters are taken at both ends: `front` and `back` bound those left. -/
structure RunIterator where
  run : Run
  front : Nat
  back : Nat

namespace RunIterator

def ofRun (run : Run) : RunIterator := ⟨run, 0, run.length⟩

def remaining (iterator : RunIterator) : Nat := iterator.back - iterator.front

/-- The characters not yet taken. -/
def left (iterator : RunIterator) : List Char :=
  (iterator.run.chars.take iterator.back).drop iterator.front

/-- Takes a character at one side; nothing is left to take once the bounds have met. -/
def take (iterator : RunIterator) : Side → Option Char × RunIterator
  | .front =>
    if iterator.front < iterator.back then
      (iterator.run.chars[iterator.front]?, { iterator with front := iterator.front + 1 })
    else (none, iterator)
  | .back =>
    if iterator.front < iterator.back then
      (iterator.run.chars[iterator.back - 1]?, { iterator with back := iterator.back - 1 })
    else (none, iterator)

/-- What each of several takes gives, with the number of characters left after it. -/
def takes (iterator : RunIterator) : List Side → List (Option Char × Nat)
  | [] => []
  | side :: sides =>
    let (taken, next) := iterator.take side
    (taken, next.remaining) :: next.takes sides

end RunIterator

end TextLocation
