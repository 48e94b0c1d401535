import TextLocation.Position

namespace TextLocation.Position

variable {p q r : Position} {order : Ordering}

theorem compare?_eq_some_iff :
    p.compare? q = some order ↔
      p.source.id = q.source.id ∧ compare p.offset q.offset = order := by
  rw [compare?]
  split
  · next h => rw [Option.some.injEq, and_iff_right h]
  · next h =>
    constructor
    · intro he
      cases he
    · exact fun he => absurd he.1 h

theorem isSome_compare?_iff : (p.compare? q).isSome = true ↔ p.source.id = q.source.id := by
  rw [Option.isSome_iff_exists]
  constructor
  · rintro ⟨order, h⟩
    exact (compare?_eq_some_iff.1 h).1
  · exact fun h => ⟨_, compare?_eq_some_iff.2 ⟨h, rfl⟩⟩

theorem lt_iff : p < q ↔ p.source.id = q.source.id ∧ p.offset < q.offset := by
  change p.compare? q = some .lt ↔ _
  rw [compare?_eq_some_iff, Nat.compare_eq_lt]

theorem le_iff : p ≤ q ↔ p.source.id = q.source.id ∧ p.offset ≤ q.offset := by
  change p.compare? q = some .lt ∨ p.compare? q = some .eq ↔ _
  rw [compare?_eq_some_iff, compare?_eq_some_iff, ← and_or_left, Nat.compare_eq_lt,
    Nat.compare_eq_eq, Nat.le_iff_lt_or_eq]

theorem compare?_eq_eq_iff : p.compare? q = some .eq ↔ (p == q) = true := by
  rw [compare?_eq_some_iff, Nat.compare_eq_eq, beq_iff]

theorem compare?_swap (p q : Position) : q.compare? p = (p.compare? q).map Ordering.swap := by
  rw [compare?, compare?]
  split
  · next h => rw [if_pos h.symm, Option.map_some, Nat.compare_swap]
  · next h => rw [if_neg (Ne.symm h), Option.map_none]

theorem compare?_trans (h : p.compare? q = some order) (h' : q.compare? r = some order) :
    p.compare? r = some order := by
  obtain ⟨hid, ho⟩ := compare?_eq_some_iff.1 h
  obtain ⟨hid', ho'⟩ := compare?_eq_some_iff.1 h'
  refine compare?_eq_some_iff.2 ⟨hid.trans hid', ?_⟩
  cases order with
  | lt =>
    rw [Nat.compare_eq_lt] at ho ho' ⊢
    exact Nat.lt_trans ho ho'
  | eq =>
    rw [Nat.compare_eq_eq] at ho ho' ⊢
    exact ho.trans ho'
  | gt =>
    rw [Nat.compare_eq_gt] at ho ho' ⊢
    exact Nat.lt_trans ho' ho

theorem le_trans (h : p ≤ q) (h' : q ≤ r) : p ≤ r := by
  obtain ⟨hid, ho⟩ := le_iff.1 h
  obtain ⟨hid', ho'⟩ := le_iff.1 h'
  exact le_iff.2 ⟨hid.trans hid', Nat.le_trans ho ho'⟩

theorem le_total (h : p.source.id = q.source.id) : p ≤ q ∨ q ≤ p := by
  rw [le_iff, le_iff, and_iff_right h, and_iff_right h.symm]
  exact Nat.le_total p.offset q.offset

end TextLocation.Position
