import TextLocation.Hashed

namespace TextLocation

/-- Characters taken from a text. Where they were taken from does not matter: runs are equal when
their characters are. -/
structure Run where
  chars : List Char
  deriving DecidableEq

namespace Run

def length (run : Run) : Nat := run.chars.length

def isEmpty (run : Run) : Bool := run.chars.isEmpty

instance : ToString Run where
  toString run := String.ofList run.chars

/-- Does the run hold the characters of the string, no more and no fewer? -/
def eqString (run : Run) (s : String) : Bool := run.chars == s.toList

/-- The same for a slice of a string. -/
def eqSlice (run : Run) (s : String.Slice) : Bool := run.eqString s.copy

def codePoints (run : Run) : List Nat := run.chars.map Char.toNat

theorem beq_iff {x y : Run} : (x == y) = true ↔ x.chars = y.chars := by
  cases x
  cases y
  rw [beq_iff_eq, Run.mk.injEq]

theorem codePoints_inj {x y : Run} : x.codePoints = y.codePoints ↔ x.chars = y.chars :=
  List.map_inj_right fun _ _ => Char.toNat_inj.1

/-- The length stands before the characters. -/
instance : Hashed Run where
  numbers run := run.length :: run.codePoints

instance : LawfulHashed Run where
  beq_iff_numbers {x y} := by
    change (x == y) = true ↔ x.length :: x.codePoints = y.length :: y.codePoints
    rw [beq_iff, List.cons.injEq, codePoints_inj]
    exact (and_iff_right_of_imp fun h => congrArg List.length h).symm

@[simp] theorem toList_toString (run : Run) : (toString run).toList = run.chars :=
  String.toList_ofList

end Run

end TextLocation
