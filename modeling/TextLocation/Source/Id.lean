import TextLocation.Hashed

namespace TextLocation

/-- Tells a source from every other source, also from one with the same name and text. -/
structure SourceId where
  number : Nat
  deriving DecidableEq

namespace SourceId

theorem number_inj {a b : SourceId} : a.number = b.number ↔ a = b := by
  cases a
  cases b
  exact Iff.of_eq (SourceId.mk.injEq ..).symm

instance : Hashed SourceId where
  numbers id := [id.number]

instance : LawfulHashed SourceId where
  beq_iff_numbers {a b} := by
    change (a == b) = true ↔ [a.number] = [b.number]
    rw [beq_iff_eq, List.singleton_inj, number_inj]

/-- How many identities there are. -/
def count : Nat := UInt64.size

instance : Ord SourceId where
  compare a b := compare a.number b.number

instance : LT SourceId := ltOfOrd

instance : LE SourceId := leOfOrd

instance : ToString SourceId where
  toString id := s!"source#{id.number}"

end SourceId

end TextLocation
