import TextLocation.Hashed

namespace TextLocation

/-- A line and a column, both counted from one. -/
structure LineColumn where
  line : Nat
  column : Nat
  deriving DecidableEq

namespace LineColumn

/-- The location of the first character of every text. -/
def first : LineColumn := ⟨1, 1⟩

instance : Inhabited LineColumn := ⟨first⟩

instance : Hashed LineColumn where
  numbers location := [location.line, location.column]

instance : LawfulHashed LineColumn where
  beq_iff_numbers {a b} := by
    change (a == b) = true ↔ [a.line, a.column] = [b.line, b.column]
    cases a
    cases b
    simp only [beq_iff_eq, mk.injEq, List.cons.injEq, and_true]

/-- Lines are compared first, columns of one line second. -/
instance : Ord LineColumn where
  compare a b := (compare a.line b.line).then (compare a.column b.column)

instance : LT LineColumn := ltOfOrd

instance : LE LineColumn := leOfOrd

instance : ToString LineColumn where
  toString location := s!"{location.line}:{location.column}"

/-- Where the next character stands: a newline ends its line, all else takes one column. -/
def after (location : LineColumn) (c : Char) : LineColumn :=
  if c = '\n' then ⟨location.line + 1, 1⟩ else ⟨location.line, location.column + 1⟩

@[simp] theorem after_newline (location : LineColumn) :
    location.after '\n' = ⟨location.line + 1, 1⟩ := rfl

theorem after_of_ne (location : LineColumn) {c : Char} (h : c ≠ '\n') :
    location.after c = ⟨location.line, location.column + 1⟩ := by
  simp [after, h]

end LineColumn

end TextLocation
