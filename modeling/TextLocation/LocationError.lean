import TextLocation.Source.Id

namespace TextLocation

/-- Why a location or the text at it cannot be had. -/
inductive LocationError where
  /-- The text has no such offset. -/
  | offsetOutOfRange (offset length : Nat)
  /-- The stretch is reversed, or runs past the end of the text. -/
  | sliceOutOfRange (start stop length : Nat)
  /-- Fewer characters are left than were asked for. -/
  | peekPastEnd (requested remaining : Nat)
  /-- A location of one source was given where one of another is needed. -/
  | sourceMismatch (left right : SourceId)
  deriving DecidableEq

namespace LocationError

def message : LocationError → String
  | offsetOutOfRange offset length =>
    s!"offset {offset} is out of range for source of length {length}"
  | sliceOutOfRange start stop length =>
    s!"slice {start}..{stop} is out of range for source of length {length}"
  | peekPastEnd requested remaining =>
    s!"cannot peek {requested} characters, only {remaining} remaining"
  | sourceMismatch left right =>
    s!"cannot combine locations from different sources ({left} and {right})"

instance : ToString LocationError := ⟨message⟩

end LocationError

/-- The end of a call whose caller did not allow for a refusal; all that is left of the cause is
its wording. -/
structure Halt where
  message : String
  deriving DecidableEq

/-- For callers that rule a refusal out: a refusal halts with its message. -/
def orHalt {α : Type} (result : Except LocationError α) : Except Halt α :=
  result.mapError fun error => ⟨error.message⟩

@[simp] theorem orHalt_ok {α : Type} (a : α) : orHalt (.ok a) = .ok a := rfl

@[simp] theorem orHalt_error {α : Type} (error : LocationError) :
    orHalt (.error error : Except LocationError α) = .error ⟨error.message⟩ := rfl

end TextLocation
