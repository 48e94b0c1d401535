import TextLocation.LocationError
import TextLocation.Run.Basic

namespace TextLocation

/-- A text with a name to show and an identity. Offsets into it count characters. -/
structure Source where
  id : SourceId
  name : String
  text : List Char

namespace Source

def length (source : Source) : Nat := source.text.length

def isEmpty (source : Source) : Bool := source.text.isEmpty

/-- The whole text. -/
def run (source : Source) : Run := ⟨source.text⟩

def charAt (source : Source) (offset : Nat) : Except LocationError Char :=
  match source.text[offset]? with
  | some c => .ok c
  | none => .error (.offsetOutOfRange offset source.length)

/-- The characters from `start` up to `stop`. -/
def slice (source : Source) (start stop : Nat) : Except LocationError Run :=
  if start ≤ stop ∧ stop ≤ source.length then
    .ok ⟨(source.text.drop start).take (stop - start)⟩
  else
    .error (.sliceOutOfRange start stop source.length)

end Source

end TextLocation
