import TextLocation.Line.Pair
import TextLocation.Position

namespace TextLocation

/-- The stretch of a source from `start` up to `stop`. It may be empty, and it may be reversed, in
which case it covers nothing and cannot be sliced. -/
structure Span where
  source : Source
  start : Nat
  stop : Nat

namespace Position

/-- The span from one position to another of the same source. -/
def spanTo (p q : Position) : Except LocationError Span := do
  p.source.requireOwn q
  return ⟨p.source, p.offset, q.offset⟩

def spanToOrHalt (p q : Position) : Except Halt Span := orHalt (p.spanTo q)

end Position

namespace Source

/-- The span between two positions of this source. -/
def span (source : Source) (start stop : Position) : Except LocationError Span := do
  source.requireOwn start
  start.spanTo stop

def spanOrHalt (source : Source) (start stop : Position) : Except Halt Span :=
  orHalt (source.span start stop)

end Source

namespace Span

instance : BEq Span where
  beq a b := a.source.id == b.source.id && a.start == b.start && a.stop == b.stop

instance : Hashed Span where
  numbers span := Hashed.numbers span.source.id ++ [span.start, span.stop]

theorem beq_iff {a b : Span} :
    (a == b) = true ↔ a.source.id = b.source.id ∧ a.start = b.start ∧ a.stop = b.stop := by
  change (a.source.id == b.source.id && a.start == b.start && a.stop == b.stop) = true ↔ _
  rw [Bool.and_eq_true, Bool.and_eq_true, beq_iff_eq, beq_iff_eq, beq_iff_eq, and_assoc]

instance : LawfulHashed Span where
  beq_iff_numbers {a b} := by
    change _ ↔ [a.source.id.number, a.start, a.stop] = [b.source.id.number, b.start, b.stop]
    rw [beq_iff, ← SourceId.number_inj]
    simp only [List.cons.injEq, and_true]

def startPosition (span : Span) : Position := ⟨span.source, span.start⟩

def stopPosition (span : Span) : Position := ⟨span.source, span.stop⟩

/-- The number of characters covered. -/
def length (span : Span) : Nat := span.stop - span.start

def isEmpty (span : Span) : Bool := span.length == 0

/-- Does the span cover the character after the position? -/
def contains (span : Span) (p : Position) : Bool :=
  p.source.id = span.source.id ∧ span.start ≤ p.offset ∧ p.offset < span.stop

def slice (span : Span) : Except LocationError Run := span.source.slice span.start span.stop

/-- From the start of one span to the stop of another of the same source. -/
def spanTo (a b : Span) : Except LocationError Span := do
  a.source.requireOwn b.stopPosition
  return ⟨a.source, a.start, b.stop⟩

def spanToOrHalt (a b : Span) : Except Halt Span := orHalt (a.spanTo b)

/-- The lines and columns of both ends. -/
def lineColumns (span : Span) : LineColumn × LineColumn :=
  lineColumnsAt span.source.text span.start span.stop

/-- Shown as `name:line:column:line:column`. -/
instance : ToString Span where
  toString span :=
    let (start, stop) := span.lineColumns
    s!"{span.source.name}:{start}:{stop}"

end Span

end TextLocation
