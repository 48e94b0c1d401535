import TextLocation.Line.Bounds

namespace TextLocation

/-- What holds of a walk wherever it is: lines and columns are counted from one, neither has been
counted more often than there are characters behind, and no line begins ahead. -/
structure LineWalk.Bounded (walk : LineWalk) : Prop where
  line_pos : 1 ≤ walk.location.line
  column_pos : 1 ≤ walk.location.column
  line_add_column_le : walk.location.line + walk.location.column ≤ walk.offset + 2
  lineStart_le : walk.lineStart ≤ walk.offset

namespace LineWalk

theorem bounded_start : start.Bounded :=
  ⟨Nat.le_refl 1, Nat.le_refl 1, Nat.le_refl 2, Nat.le_refl 0⟩

theorem Bounded.step {walk : LineWalk} (h : walk.Bounded) (c : Char) :
    (walk.step c).Bounded := by
  obtain ⟨hline, hcolumn, hsum, hstart⟩ := h
  by_cases hc : c = '\n'
  · subst hc
    rw [step_newline]
    constructor <;> dsimp only <;> omega
  · rw [step_of_ne walk hc]
    constructor <;> dsimp only <;> omega

theorem Bounded.foldl {walk : LineWalk} (h : walk.Bounded) (text : List Char) :
    (text.foldl LineWalk.step walk).Bounded := by
  induction text generalizing walk with
  | nil => exact h
  | cons c text ih => exact ih (h.step c)

theorem bounded_through (text : List Char) : (through text).Bounded :=
  bounded_start.foldl text

theorem offset_through_take (text : List Char) (offset : Nat) :
    (through (text.take offset)).offset = min offset text.length := by
  rw [offset_through, List.length_take]

end LineWalk

variable (text : List Char) (offset : Nat)

theorem one_le_line_lineColumnAt : 1 ≤ (lineColumnAt text offset).line :=
  (LineWalk.bounded_through _).line_pos

theorem one_le_column_lineColumnAt : 1 ≤ (lineColumnAt text offset).column :=
  (LineWalk.bounded_through _).column_pos

theorem line_add_column_lineColumnAt_le :
    (lineColumnAt text offset).line + (lineColumnAt text offset).column ≤
      min offset text.length + 2 := by
  rw [← LineWalk.offset_through_take]
  exact (LineWalk.bounded_through _).line_add_column_le

theorem start_lineBoundsAt_le : (lineBoundsAt text offset).start ≤ min offset text.length := by
  rw [← LineWalk.offset_through_take]
  exact (LineWalk.bounded_through _).lineStart_le

theorem le_stop_lineBoundsAt : min offset text.length ≤ (lineBoundsAt text offset).stop := by
  rw [← LineWalk.offset_through_take]
  exact Nat.le_add_right _ _

theorem stop_lineBoundsAt_le : (lineBoundsAt text offset).stop ≤ text.length := by
  have hahead := (List.takeWhile_sublist (l := text.drop offset) (· ≠ '\n')).length_le
  rw [List.length_drop] at hahead
  change (LineWalk.through (text.take offset)).offset + _ ≤ _
  rw [LineWalk.offset_through_take]
  omega

end TextLocation
