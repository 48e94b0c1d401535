import TextLocation.Line.Walk
import TextLocation.Source.Basic

namespace TextLocation

/-- A place in a source: before its first character, between two, or after the last. -/
structure Position where
  source : Source
  offset : Nat

namespace Position

instance : BEq Position where
  beq p q := p.source.id == q.source.id && p.offset == q.offset

instance : Hashed Position where
  numbers p := Hashed.numbers p.source.id ++ [p.offset]

theorem beq_iff {p q : Position} :
    (p == q) = true ↔ p.source.id = q.source.id ∧ p.offset = q.offset := by
  change (p.source.id == q.source.id && p.offset == q.offset) = true ↔ _
  rw [Bool.and_eq_true, beq_iff_eq, beq_iff_eq]

instance : LawfulHashed Position where
  beq_iff_numbers {p q} := by
    change _ ↔ [p.source.id.number, p.offset] = [q.source.id.number, q.offset]
    rw [beq_iff, ← SourceId.number_inj]
    simp only [List.cons.injEq, and_true]

/-- Positions of one source compare by offset; those of different sources do not compare. -/
def compare? (p q : Position) : Option Ordering :=
  if p.source.id = q.source.id then some (compare p.offset q.offset) else none

instance : LT Position where
  lt p q := p.compare? q = some .lt

instance : LE Position where
  le p q := p.compare? q = some .lt ∨ p.compare? q = some .eq

instance (p q : Position) : Decidable (p < q) :=
  inferInstanceAs (Decidable (p.compare? q = some .lt))

instance (p q : Position) : Decidable (p ≤ q) :=
  inferInstanceAs (Decidable (p.compare? q = some .lt ∨ p.compare? q = some .eq))

def lineColumn (p : Position) : LineColumn := lineColumnAt p.source.text p.offset

/-- Shown as `name:line:column`. -/
instance : ToString Position where
  toString p := s!"{p.source.name}:{p.lineColumn}"

end Position

/-- The position of an offset, which may be the end of the text but not past it. -/
def Source.position (source : Source) (offset : Nat) : Except LocationError Position :=
  if offset ≤ source.length then .ok ⟨source, offset⟩
  else .error (.offsetOutOfRange offset source.length)

/-- Refuses a position of another source. -/
def Source.requireOwn (source : Source) (p : Position) : Except LocationError Unit :=
  if p.source.id = source.id then .ok () else .error (.sourceMismatch source.id p.source.id)

end TextLocation
