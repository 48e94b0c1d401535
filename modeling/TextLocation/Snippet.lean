import TextLocation.Line.Bounds
import TextLocation.Span

namespace TextLocation

/-- What a reader is shown of a span: the line it starts on, and how much of it to underline. -/
structure Snippet where
  name : String
  location : LineColumn
  line : Run
  caretCount : Nat
  deriving DecidableEq

namespace Snippet

/-- A span that ends on its first line is underlined whole, any other at its first character. An
empty span still gets one caret. -/
def ofSpan (span : Span) : Snippet :=
  let bounds := lineBoundsAt span.source.text span.start
  { name := span.source.name
    location := bounds.location
    line := ⟨(span.source.text.drop bounds.start).take (bounds.stop - bounds.start)⟩
    caretCount := if span.stop ≤ bounds.stop then max (span.stop - span.start) 1 else 1 }

/-- The carets, moved below the column where the span starts. -/
def underline (snippet : Snippet) : String :=
  String.ofList
    (List.replicate (snippet.location.column - 1) ' ' ++ List.replicate snippet.caretCount '^')

/-- Three lines: the location, the text of the line, the underline. -/
instance : ToString Snippet where
  toString snippet :=
    s!"{snippet.name}:{snippet.location}\n{snippet.line}\n{snippet.underline}"

end Snippet

def Span.snippet (span : Span) : Snippet := .ofSpan span

def Span.describe (span : Span) : String := toString span.snippet

/-- What stems from a stretch of a source and can be shown there. -/
class HasSpan (α : Type) where
  span : α → Span
  describe : α → String := fun a => (span a).describe

instance : HasSpan Span where
  span := id

end TextLocation
