import Std.Data.String.ToNat
import TextLocation.Line.Column

namespace TextLocation

theorem eq_nil_of_cons_eq_append {c : Char} {rest mid rest' : List Char} (h : c ∉ rest)
    (he : c :: rest = mid ++ c :: rest') : mid = [] := by
  cases mid with
  | nil => rfl
  | cons d mid =>
    obtain ⟨_, hrest⟩ := List.cons.inj he
    exact absurd (by simp [hrest]) h

/-- A text can be cut at the last of its separators in one way only. -/
theorem append_cons_eq_iff {c : Char} {front front' rest rest' : List Char} (h : c ∉ rest)
    (h' : c ∉ rest') :
    front ++ c :: rest = front' ++ c :: rest' ↔ front = front' ∧ rest = rest' := by
  constructor
  · intro he
    rcases List.append_eq_append_iff.1 he with ⟨mid, hfront, hrest⟩ | ⟨mid, hfront, hrest⟩
    · obtain rfl := eq_nil_of_cons_eq_append h hrest
      rw [List.append_nil] at hfront
      exact ⟨hfront.symm, (List.cons.inj hrest).2⟩
    · obtain rfl := eq_nil_of_cons_eq_append h' hrest
      rw [List.append_nil] at hfront
      exact ⟨hfront, (List.cons.inj hrest).2.symm⟩
  · rintro ⟨rfl, rfl⟩
    rfl

theorem colon_notMem_toString (n : Nat) : ':' ∉ (toString n).toList := by
  intro h
  rw [Nat.toString_eq_repr, Nat.toList_repr] at h
  exact absurd (Nat.isDigit_of_mem_toDigits (by decide) (by decide) h) (by decide)

theorem toList_toString_inj {m n : Nat} : (toString m).toList = (toString n).toList ↔ m = n := by
  rw [String.toList_inj, Nat.toString_eq_repr, Nat.toString_eq_repr]
  exact ⟨Nat.repr_injective, congrArg Nat.repr⟩

namespace LineColumn

theorem toList_toString (location : LineColumn) :
    (toString location).toList =
      (toString location.line).toList ++ ':' :: (toString location.column).toList := by
  change (toString location.line ++ ":" ++ toString location.column).toList = _
  simp

theorem toList_written (name : String) (location : LineColumn) :
    (s!"{name}:{location}").toList =
      (name.toList ++ ':' :: (toString location.line).toList) ++
        ':' :: (toString location.column).toList := by
  change (name ++ ":" ++ toString location).toList = _
  rw [String.toList_append, String.toList_append, toList_toString]
  simp

/-- The name and the place can be told from a place written after a name, whatever the name. -/
theorem written_eq_iff {name other : String} {location place : LineColumn} :
    s!"{name}:{location}" = s!"{other}:{place}" ↔ name = other ∧ location = place := by
  rw [← String.toList_inj, toList_written, toList_written,
    append_cons_eq_iff (colon_notMem_toString _) (colon_notMem_toString _),
    append_cons_eq_iff (colon_notMem_toString _) (colon_notMem_toString _), String.toList_inj,
    toList_toString_inj, toList_toString_inj, and_assoc, ← LineColumn.mk.injEq]

end LineColumn

end TextLocation
