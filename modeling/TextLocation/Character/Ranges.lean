namespace TextLocation

/-- Code points in ranges, both ends included, the ranges in increasing order. -/
structure CharRanges where
  bounds : List (Nat × Nat)

namespace CharRanges

/-- Is the number in one of the ranges? A range above the number ends the search. -/
def search (n : Nat) : List (Nat × Nat) → Bool
  | [] => false
  | (low, high) :: rest => low ≤ n && (n ≤ high || search n rest)

def contains (ranges : CharRanges) (c : Char) : Bool := search c.toNat ranges.bounds

end CharRanges

end TextLocation
