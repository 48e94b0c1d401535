import Std.Data.HashSet
import TextLocation.Span

namespace TextLocation

/-- Values of all kinds, collected side by side. -/
inductive Item where
  | position (p : Position)
  | span (span : Span)
  | run (run : Run)
  | lineColumn (location : LineColumn)
  | id (id : SourceId)

namespace Item

/-- Values of different kinds are never equal. -/
instance : BEq Item where
  beq
    | .position p, .position q => p == q
    | .span a, .span b => a == b
    | .run x, .run y => x == y
    | .lineColumn a, .lineColumn b => a == b
    | .id a, .id b => a == b
    | _, _ => false

/-- The number of the kind stands before those of the value. -/
instance : Hashed Item where
  numbers
    | .position p => 0 :: Hashed.numbers p
    | .span a => 1 :: Hashed.numbers a
    | .run x => 2 :: Hashed.numbers x
    | .lineColumn a => 3 :: Hashed.numbers a
    | .id a => 4 :: Hashed.numbers a

theorem beq_iff_of_kind {α : Type} [BEq α] [Hashed α] [LawfulHashed α] (kind : Nat) (a b : α) :
    (a == b) = true ↔ kind :: Hashed.numbers a = kind :: Hashed.numbers b := by
  rw [LawfulHashed.beq_iff_numbers, List.cons_inj_right]

instance : LawfulHashed Item where
  beq_iff_numbers {a b} := by
    cases a <;> cases b
    case position.position p q => exact beq_iff_of_kind 0 p q
    case span.span a b => exact beq_iff_of_kind 1 a b
    case run.run x y => exact beq_iff_of_kind 2 x y
    case lineColumn.lineColumn a b => exact beq_iff_of_kind 3 a b
    case id.id a b => exact beq_iff_of_kind 4 a b
    -- The kinds differ, and with them the first numbers.
    all_goals exact iff_of_false Bool.false_ne_true fun h => absurd (List.cons.inj h).1 (by decide)

end Item

/-- For each value in turn, whether it was not yet in the set that those before it were put in. -/
def newlyInserted {α : Type} [BEq α] [Hashable α] (known : Std.HashSet α) :
    List α → List Bool
  | [] => []
  | a :: rest => (!known.contains a) :: newlyInserted (known.insert a) rest

/-- For each value in turn, whether none before it is equal to it. -/
def firstSeen {α : Type} [BEq α] [Hashable α] (values : List α) : List Bool :=
  newlyInserted ∅ values

end TextLocation
