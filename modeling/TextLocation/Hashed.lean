namespace TextLocation

/-- Values that give numbers to a hash, one after another. -/
class Hashed (α : Type) where
  numbers : α → List Nat

/-- The hash is made of the numbers in turn, and of nothing else. -/
instance (priority := low) Hashed.toHashable {α : Type} [Hashed α] : Hashable α where
  hash a := hash (Hashed.numbers a)

/-- Values are equal when they give the same numbers. -/
class LawfulHashed (α : Type) [BEq α] [Hashed α] : Prop where
  beq_iff_numbers {a b : α} : (a == b) = true ↔ Hashed.numbers a = Hashed.numbers b

namespace LawfulHashed

variable {α : Type} [BEq α] [Hashed α] [LawfulHashed α]

instance (priority := low) toEquivBEq : EquivBEq α where
  rfl := beq_iff_numbers.2 rfl
  symm h := beq_iff_numbers.2 (beq_iff_numbers.1 h).symm
  trans h h' := beq_iff_numbers.2 ((beq_iff_numbers.1 h).trans (beq_iff_numbers.1 h'))

instance (priority := low) toLawfulHashable : LawfulHashable α where
  hash_eq _ _ h := congrArg (fun numbers : List Nat => hash numbers) (beq_iff_numbers.1 h)

end LawfulHashed

end TextLocation
