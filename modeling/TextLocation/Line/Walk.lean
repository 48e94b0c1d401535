import TextLocation.Line.Column

namespace TextLocation

/-- What a walk from the start of a text has counted so far. -/
structure LineWalk where
  /-- The number of characters behind the walk. -/
  offset : Nat
  /-- The location of the character ahead. -/
  location : LineColumn
  /-- The offset at which the line of that character begins. -/
  lineStart : Nat
  deriving DecidableEq

namespace LineWalk

def start : LineWalk := ⟨0, .first, 0⟩

/-- Passes one character. The character after a newline begins a line. -/
def step (walk : LineWalk) (c : Char) : LineWalk where
  offset := walk.offset + 1
  location := walk.location.after c
  lineStart := if c = '\n' then walk.offset + 1 else walk.lineStart

theorem step_newline (walk : LineWalk) :
    walk.step '\n' = ⟨walk.offset + 1, ⟨walk.location.line + 1, 1⟩, walk.offset + 1⟩ := rfl

theorem step_of_ne (walk : LineWalk) {c : Char} (h : c ≠ '\n') :
    walk.step c =
      ⟨walk.offset + 1, ⟨walk.location.line, walk.location.column + 1⟩, walk.lineStart⟩ := by
  rw [step, LineColumn.after_of_ne _ h, if_neg h]

/-- The walk over the whole of a text. -/
def through (text : List Char) : LineWalk := text.foldl step start

theorem through_append (text more : List Char) :
    through (text ++ more) = more.foldl step (through text) :=
  List.foldl_append

theorem through_concat (text : List Char) (c : Char) :
    through (text ++ [c]) = (through text).step c := by
  simp [through_append]

theorem offset_foldl_step (text : List Char) (walk : LineWalk) :
    (text.foldl step walk).offset = walk.offset + text.length := by
  induction text generalizing walk with
  | nil => rfl
  | cons c text ih => rw [List.foldl_cons, ih]; simp [step]; omega

@[simp] theorem offset_through (text : List Char) : (through text).offset = text.length := by
  simp [through, offset_foldl_step, start]

end LineWalk

/-- The line and column of an offset; an offset past the end counts as the end. -/
def lineColumnAt (text : List Char) (offset : Nat) : LineColumn :=
  (LineWalk.through (text.take offset)).location

end TextLocation
