import TextLocation.Line.Pair
import TextLocation.Proofs.Line.Cut

namespace TextLocation

namespace LineWalk

/-- Within a line a walk moves on to the right and changes nothing else. -/
theorem foldl_step_line {line : List Char} (h : '\n' ∉ line) (walk : LineWalk) :
    line.foldl step walk =
      ⟨walk.offset + line.length, ⟨walk.location.line, walk.location.column + line.length⟩,
        walk.lineStart⟩ := by
  induction line generalizing walk with
  | nil => rfl
  | cons c line ih =>
    have hc : c ≠ '\n' := by
      rintro rfl
      exact h List.mem_cons_self
    rw [List.foldl_cons, ih fun hn => h (List.mem_cons_of_mem _ hn), step_of_ne walk hc]
    simp only [List.length_cons, LineWalk.mk.injEq, LineColumn.mk.injEq, true_and, and_true]
    omega

theorem through_unlines {lines : List (List Char)} (h : ∀ line ∈ lines, '\n' ∉ line) :
    through (unlines lines) =
      ⟨(unlines lines).length, ⟨lines.length + 1, 1⟩, (unlines lines).length⟩ := by
  induction lines using List.reverseRecOn with
  | nil => rfl
  | append_singleton lines line ih =>
    have hline : '\n' ∉ line := h line (by simp)
    have hu : unlines (lines ++ [line]) = (unlines lines ++ line) ++ ['\n'] := by
      simp [unlines_append, unlines_cons]
    rw [hu, through_concat, through_append, ih fun l hl => h l (List.mem_append_left _ hl),
      foldl_step_line hline, step_newline]
    simp [Nat.add_assoc]

end LineWalk

namespace LineCut

theorem through_take (cut : LineCut) :
    LineWalk.through (cut.text.take cut.offset) =
      ⟨cut.offset, cut.location, (unlines cut.front).length⟩ := by
  rw [take_offset, LineWalk.through_append, LineWalk.through_unlines cut.front_newline,
    LineWalk.foldl_step_line cut.left_newline]
  simp [offset, location, Nat.add_comm]

theorem lineColumnAt_offset (cut : LineCut) :
    lineColumnAt cut.text cut.offset = cut.location := by
  rw [lineColumnAt, through_take]

theorem takeWhile_right (cut : LineCut) :
    (cut.right ++ newLines cut.back).takeWhile (· ≠ '\n') = cut.right := by
  rw [List.takeWhile_append_of_pos]
  · cases cut.back with
    | nil => simp
    | cons line back => simp [newLines_cons]
  · intro c hc
    simp only [decide_eq_true_eq]
    rintro rfl
    exact cut.right_newline hc

theorem lineBoundsAt_offset (cut : LineCut) :
    lineBoundsAt cut.text cut.offset =
      ⟨cut.location, (unlines cut.front).length, cut.lineEnd⟩ := by
  simp only [lineBoundsAt, through_take, drop_offset, takeWhile_right, lineEnd_eq]

end LineCut

theorem lineColumnAt_succ {text : List Char} {offset : Nat} {c : Char}
    (h : text[offset]? = some c) :
    lineColumnAt text (offset + 1) = (lineColumnAt text offset).after c := by
  rw [lineColumnAt, List.take_add_one, h, Option.toList_some, LineWalk.through_concat]
  rfl

theorem lineColumnAt_take {text : List Char} {offset limit : Nat} (h : offset ≤ limit) :
    lineColumnAt (text.take limit) offset = lineColumnAt text offset := by
  rw [lineColumnAt, List.take_take, Nat.min_eq_left h, lineColumnAt]

namespace PairWalk

/-- What a pair walk holds of an offset once it has passed a text. -/
def noted (text : List Char) (offset : Nat) : Option LineColumn :=
  if offset < text.length then some (lineColumnAt text offset) else none

theorem noted_concat (text : List Char) (c : Char) (offset : Nat) :
    noted (text ++ [c]) offset =
      if text.length = offset then some (LineWalk.through text).location
      else noted text offset := by
  simp only [noted, List.length_append, List.length_singleton]
  by_cases he : text.length = offset
  · subst he
    rw [if_pos (by omega), if_pos rfl, lineColumnAt, List.take_left]
  · rw [if_neg he]
    by_cases hlt : offset < text.length
    · rw [if_pos (by omega), if_pos hlt, lineColumnAt, lineColumnAt,
        List.take_append_of_le_length (by omega)]
    · rw [if_neg (by omega), if_neg hlt]

theorem foldl_step (start stop : Nat) (text : List Char) :
    text.foldl (step start stop) PairWalk.start =
      ⟨LineWalk.through text, noted text start, noted text stop⟩ := by
  induction text using List.reverseRecOn with
  | nil => rfl
  | append_singleton text c ih =>
    rw [List.foldl_append, ih, List.foldl_cons, List.foldl_nil, noted_concat, noted_concat,
      LineWalk.through_concat, step]
    simp only [LineWalk.offset_through]

theorem noted_getD {text : List Char} {offset limit : Nat} (h : offset ≤ limit) :
    (noted (text.take limit) offset).getD (LineWalk.through (text.take limit)).location =
      lineColumnAt text offset := by
  rw [noted]
  split
  · rw [Option.getD_some, lineColumnAt_take h]
  · next hn =>
    rw [List.length_take] at hn
    have he : text.take limit = text.take offset := by
      rw [List.take_eq_take_iff]
      omega
    rw [Option.getD_none, he, lineColumnAt]

end PairWalk

/-- The walk to the farther of two offsets finds what a walk to each of them finds. -/
theorem lineColumnsAt_eq (text : List Char) (start stop : Nat) :
    lineColumnsAt text start stop = (lineColumnAt text start, lineColumnAt text stop) := by
  rw [lineColumnsAt, PairWalk.foldl_step, PairWalk.locations,
    PairWalk.noted_getD (Nat.le_max_left start stop),
    PairWalk.noted_getD (Nat.le_max_right start stop)]

end TextLocation
