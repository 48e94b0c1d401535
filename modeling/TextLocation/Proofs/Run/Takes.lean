import TextLocation.Run.Iterator

namespace TextLocation.RunIterator

/-- The bounds are in order, and the run reaches to the second of them. -/
structure Sound (iterator : RunIterator) : Prop where
  front_le : iterator.front ≤ iterator.back
  back_le : iterator.back ≤ iterator.run.length

/-- The iterator after several takes. -/
def after (iterator : RunIterator) (sides : List Side) : RunIterator :=
  sides.foldl (fun iterator side => (iterator.take side).2) iterator

/-- What a take has given, if it was made at the side in question. -/
def givenIf (side made : Side) (taken : Option Char) : List Char :=
  if made = side then taken.toList else []

/-- What the takes at one of the sides give, in the order of taking. -/
def givenAt (iterator : RunIterator) (side : Side) (sides : List Side) : List Char :=
  (sides.zip (iterator.takes sides)).flatMap fun (made, taken, _) => givenIf side made taken

theorem reverse_givenIf (side made : Side) (taken : Option Char) :
    (givenIf side made taken).reverse = givenIf side made taken := by
  rw [givenIf]
  cases taken with
  | none => split <;> rfl
  | some c => split <;> rfl

variable {iterator : RunIterator}

theorem sound_ofRun (run : Run) : (ofRun run).Sound := ⟨Nat.zero_le _, Nat.le_refl _⟩

theorem left_ofRun (run : Run) : (ofRun run).left = run.chars := by
  rw [left, ofRun, Run.length, List.take_length, List.drop_zero]

theorem remaining_ofRun (run : Run) : (ofRun run).remaining = run.length := Nat.sub_zero _

theorem Sound.length_left (h : iterator.Sound) : iterator.left.length = iterator.remaining := by
  have hback : iterator.back ≤ iterator.run.chars.length := h.back_le
  rw [left, List.length_drop, List.length_take, Nat.min_eq_left hback, remaining]

theorem take_of_met (h : iterator.back ≤ iterator.front) (side : Side) :
    iterator.take side = (none, iterator) := by
  cases side with
  | front => exact if_neg (Nat.not_lt.2 h)
  | back => exact if_neg (Nat.not_lt.2 h)

/-- A character goes from what is left to the one who takes it at this side. Nothing is given only
when nothing is left. -/
structure Gives (iterator : RunIterator) (side : Side) (taken : Option Char)
    (next : RunIterator) : Prop where
  sound : next.Sound
  left_eq : iterator.left =
    givenIf .front side taken ++ next.left ++ givenIf .back side taken
  remaining_eq : next.remaining = iterator.remaining - 1
  none_iff : taken = none ↔ iterator.remaining = 0

theorem Sound.gives_none (h : iterator.Sound) (hmet : iterator.back ≤ iterator.front)
    (side : Side) : iterator.Gives side none iterator where
  sound := h
  left_eq := by
    cases side with
    | front => simp [givenIf]
    | back => simp [givenIf]
  remaining_eq := by rw [remaining, Nat.sub_eq_zero_of_le hmet]
  none_iff := iff_of_true rfl (Nat.sub_eq_zero_of_le hmet)

theorem Sound.gives_front (h : iterator.Sound) (hlt : iterator.front < iterator.back) :
    iterator.Gives .front iterator.run.chars[iterator.front]?
      { iterator with front := iterator.front + 1 } where
  sound := ⟨hlt, h.back_le⟩
  left_eq := by
    have hfirst := List.drop_eq_getElem?_toList_append
      (l := iterator.run.chars.take iterator.back) (i := iterator.front)
    rw [List.getElem?_take_of_lt hlt] at hfirst
    rw [left, hfirst]
    simp [givenIf, left]
  remaining_eq := Nat.sub_add_eq ..
  none_iff := by
    have hlength : iterator.front < iterator.run.chars.length := Nat.lt_of_lt_of_le hlt h.back_le
    rw [List.getElem?_eq_getElem hlength, remaining]
    exact iff_of_false (Option.some_ne_none _) (Nat.sub_ne_zero_of_lt hlt)

theorem Sound.gives_back (h : iterator.Sound) (hlt : iterator.front < iterator.back) :
    iterator.Gives .back iterator.run.chars[iterator.back - 1]?
      { iterator with back := iterator.back - 1 } where
  sound := ⟨Nat.le_sub_one_of_lt hlt, Nat.le_trans (Nat.sub_le ..) h.back_le⟩
  left_eq := by
    have hback : iterator.back - 1 + 1 = iterator.back := Nat.sub_add_cancel (by omega)
    have hlength : iterator.back ≤ iterator.run.chars.length := h.back_le
    have htake := List.take_add_one (l := iterator.run.chars) (i := iterator.back - 1)
    rw [hback] at htake
    rw [left, htake, List.drop_append_of_le_length]
    · simp [givenIf, left]
    · rw [List.length_take]
      omega
  remaining_eq := by
    simp only [remaining]
    omega
  none_iff := by
    have hlength : iterator.back ≤ iterator.run.chars.length := h.back_le
    rw [List.getElem?_eq_getElem (by omega), remaining]
    exact iff_of_false (Option.some_ne_none _) (Nat.sub_ne_zero_of_lt hlt)

theorem Sound.gives_take (h : iterator.Sound) (side : Side) :
    iterator.Gives side (iterator.take side).1 (iterator.take side).2 := by
  rcases Nat.lt_or_ge iterator.front iterator.back with hlt | hmet
  · cases side with
    | front =>
      rw [take, if_pos hlt]
      exact h.gives_front hlt
    | back =>
      rw [take, if_pos hlt]
      exact h.gives_back hlt
  · rw [take_of_met hmet]
    exact h.gives_none hmet side

theorem givenAt_cons (iterator : RunIterator) (side first : Side) (sides : List Side) :
    iterator.givenAt side (first :: sides) =
      givenIf side first (iterator.take first).1 ++
        (iterator.take first).2.givenAt side sides :=
  rfl

theorem Sound.after (h : iterator.Sound) (sides : List Side) : (iterator.after sides).Sound := by
  induction sides generalizing iterator with
  | nil => exact h
  | cons side sides ih => exact ih (h.gives_take side).sound

/-- However takes at the two sides follow on each other, they share out what was left. -/
theorem Sound.left_eq (h : iterator.Sound) (sides : List Side) :
    iterator.left =
      iterator.givenAt .front sides ++ (iterator.after sides).left ++
        (iterator.givenAt .back sides).reverse := by
  induction sides generalizing iterator with
  | nil => simp [givenAt, takes, RunIterator.after]
  | cons side sides ih =>
    have hgives := h.gives_take side
    rw [hgives.left_eq, ih hgives.sound, givenAt_cons, givenAt_cons, List.reverse_append,
      reverse_givenIf]
    simp only [RunIterator.after, List.foldl_cons, List.append_assoc]

theorem Sound.remaining_after (h : iterator.Sound) (sides : List Side) :
    (iterator.after sides).remaining = iterator.remaining - sides.length := by
  induction sides generalizing iterator with
  | nil => rfl
  | cons side sides ih =>
    have hgives := h.gives_take side
    calc
      (iterator.after (side :: sides)).remaining =
          (iterator.take side).2.remaining - sides.length := ih hgives.sound
      _ = iterator.remaining - (side :: sides).length := by
        rw [hgives.remaining_eq, Nat.sub_sub, List.length_cons, Nat.add_comm]

theorem Sound.map_takes (h : iterator.Sound) (sides : List Side) :
    (iterator.takes sides).map Prod.snd =
      (List.range sides.length).map fun made => iterator.remaining - (made + 1) := by
  induction sides generalizing iterator with
  | nil => rfl
  | cons side sides ih =>
    have hgives := h.gives_take side
    have hlater := ih hgives.sound
    rw [hgives.remaining_eq] at hlater
    rw [takes, List.map_cons, hlater, hgives.remaining_eq, List.length_cons,
      List.range_succ_eq_map, List.map_cons, List.map_map]
    simp only [Function.comp_def, Nat.succ_eq_add_one, Nat.sub_sub, Nat.add_comm]

end TextLocation.RunIterator
