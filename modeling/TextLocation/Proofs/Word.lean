import TextLocation.Source.Basic

namespace TextLocation

/-- Every offset of the source, its end included, is a 64-bit word. -/
def Source.Addressable (source : Source) : Prop := source.length < UInt64.size

instance (source : Source) : Decidable source.Addressable :=
  inferInstanceAs (Decidable (_ < _))

/-- The sum of two words, or the greatest word if the sum is none. -/
def saturatingAdd (a b : UInt64) : UInt64 :=
  if a.toNat + b.toNat < UInt64.size then a + b else .ofNat (UInt64.size - 1)

theorem toNat_add_of_lt {a b : UInt64} (h : a.toNat + b.toNat < UInt64.size) :
    (a + b).toNat = a.toNat + b.toNat := by
  rw [UInt64.toNat_add]
  exact Nat.mod_eq_of_lt h

theorem toNat_saturatingAdd (a b : UInt64) :
    (saturatingAdd a b).toNat = min (a.toNat + b.toNat) (UInt64.size - 1) := by
  rw [saturatingAdd]
  split
  · next h => rw [toNat_add_of_lt h, Nat.min_eq_left (Nat.le_sub_one_of_lt h)]
  · next h =>
    rw [UInt64.toNat_ofNat_of_lt' (by decide), Nat.min_eq_right]
    omega

namespace Source.Addressable

variable {source : Source} {offset count : Nat}

theorem lt_size (h : source.Addressable) (hle : offset ≤ source.length) : offset < UInt64.size :=
  Nat.lt_of_le_of_lt hle h

theorem toNat_ofNat (h : source.Addressable) (hle : offset ≤ source.length) :
    (UInt64.ofNat offset).toNat = offset :=
  UInt64.toNat_ofNat_of_lt' (h.lt_size hle)

/-- Within the source, offsets add up as words just as they do as numbers. -/
theorem toNat_add (h : source.Addressable) (hle : offset + count ≤ source.length) :
    (UInt64.ofNat offset + UInt64.ofNat count).toNat = offset + count := by
  have hoffset := h.toNat_ofNat (Nat.le_of_add_right_le hle)
  have hcount := h.toNat_ofNat (Nat.le_of_add_left_le hle)
  rw [toNat_add_of_lt, hoffset, hcount]
  rw [hoffset, hcount]
  exact h.lt_size hle

/-- A count that is cut short to a word still leads past the end of the source. -/
theorem min_add_saturated (h : source.Addressable) (offset count : Nat) :
    min (offset + min count (UInt64.size - 1)) source.length =
      min (offset + count) source.length := by
  have hle : source.length ≤ UInt64.size - 1 := Nat.le_sub_one_of_lt h
  omega

end Source.Addressable

end TextLocation
