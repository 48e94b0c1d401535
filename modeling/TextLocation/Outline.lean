import TextLocation.Quoted
import TextLocation.Scanner.Basic
import TextLocation.Snippet

namespace TextLocation

/-- What a developer is shown of a value: a word, or a name with labelled fields. -/
inductive Outline where
  | leaf (text : String)
  | record (name : String) (fields : List (String × Outline))

namespace Outline

mutual

/-- The outline on one line. -/
def oneLine : Outline → String
  | leaf text => text
  | record name fields => s!"{name} \x7b " ++ ", ".intercalate (oneLineFields fields) ++ " \x7d"

def oneLineFields : List (String × Outline) → List String
  | [] => []
  | field :: fields => oneLineField field :: oneLineFields fields

def oneLineField : String × Outline → String
  | (label, value) => s!"{label}: {value.oneLine}"

end

/-- Four spaces for each record around. -/
def indentation (depth : Nat) : String := String.ofList (List.replicate (4 * depth) ' ')

mutual

/-- The outline with a line for each field, inside `depth` records. -/
def spread (depth : Nat) : Outline → String
  | leaf text => text
  | record name fields =>
    s!"{name} \x7b\n" ++ spreadFields (depth + 1) fields ++ indentation depth ++ "\x7d"

def spreadFields (depth : Nat) : List (String × Outline) → String
  | [] => ""
  | field :: fields => spreadField depth field ++ spreadFields depth fields

def spreadField (depth : Nat) : String × Outline → String
  | (label, value) => indentation depth ++ s!"{label}: " ++ value.spread depth ++ ",\n"

end

end Outline

/-- Values that can be shown to a developer. -/
class Outlined (α : Type) where
  outline : α → Outline

export Outlined (outline)

def inspect {α : Type} [Outlined α] (a : α) : String := (outline a).oneLine

def inspectSpread {α : Type} [Outlined α] (a : α) : String := (outline a).spread 0

instance : Outlined Nat where
  outline n := .leaf (toString n)

instance : Outlined String where
  outline s := .leaf (quoted s.toList)

instance : Outlined Run where
  outline run := .leaf (quoted run.chars)

instance : Outlined SourceId where
  outline id := .leaf s!"SourceId({id.number})"

instance : Outlined LineColumn where
  outline location :=
    .record "LineColumn" [("line", outline location.line), ("column", outline location.column)]

instance : Outlined Position where
  outline p := .leaf s!"{p.source.name}@{p.offset}"

instance : Outlined Span where
  outline span := .leaf s!"{span.source.name}@{span.start}..{span.stop}"

/-- The text itself is left out. -/
instance : Outlined Source where
  outline source :=
    .record "SourceText"
      [("id", outline source.id), ("name", outline source.name), ("len", outline source.length)]

instance : Outlined Scanner where
  outline scanner :=
    .record "SourceCursor"
      [("source", outline scanner.source), ("offset", outline scanner.offset)]

instance : Outlined Snippet where
  outline snippet :=
    .record "Excerpt"
      [("name", outline snippet.name), ("location", outline snippet.location),
        ("line", outline snippet.line), ("caret_len", outline snippet.caretCount)]

instance : Outlined LocationError where
  outline
    | .offsetOutOfRange offset length =>
      .record "OffsetOutOfRange" [("offset", outline offset), ("len", outline length)]
    | .sliceOutOfRange start stop length =>
      .record "SliceOutOfRange"
        [("start", outline start), ("end", outline stop), ("len", outline length)]
    | .peekPastEnd requested remaining =>
      .record "PeekPastEnd" [("requested", outline requested), ("remaining", outline remaining)]
    | .sourceMismatch left right =>
      .record "SourceMismatch" [("left", outline left), ("right", outline right)]

end TextLocation
