import Mathlib.Algebra.Ring.Nat
import Mathlib.Data.Set.Function
import Mathlib.Order.Interval.Set.Defs
import TextLocation.Position
import TextLocation.Proofs.Bounds
import TextLocation.Proofs.Line.Lookup

namespace TextLocation

namespace LineColumn

variable {a b c : LineColumn}

theorem compare_eq_lt : compare a b = .lt ↔ a < b := Iff.rfl

theorem lt_iff : a < b ↔ a.line < b.line ∨ a.line = b.line ∧ a.column < b.column := by
  change (compare a.line b.line).then (compare a.column b.column) = .lt ↔ _
  rw [Ordering.then_eq_lt, Nat.compare_eq_lt, Nat.compare_eq_eq, Nat.compare_eq_lt]

theorem compare_eq_gt : compare a b = .gt ↔ b < a := by
  rw [lt_iff]
  change (compare a.line b.line).then (compare a.column b.column) = .gt ↔ _
  rw [Ordering.then_eq_gt, Nat.compare_eq_gt, Nat.compare_eq_eq, Nat.compare_eq_gt,
    eq_comm (a := a.line)]

theorem compare_eq_eq : compare a b = .eq ↔ a = b := by
  change (compare a.line b.line).then (compare a.column b.column) = .eq ↔ _
  rw [Ordering.then_eq_eq, Nat.compare_eq_eq, Nat.compare_eq_eq]
  cases a
  cases b
  rw [LineColumn.mk.injEq]

theorem lt_trans (hab : a < b) (hbc : b < c) : a < c := by
  rw [lt_iff] at *
  omega

theorem lt_after (a : LineColumn) (ch : Char) : a < a.after ch := by
  rw [lt_iff]
  by_cases h : ch = '\n'
  · subst h
    exact .inl (Nat.lt_succ_self _)
  · rw [after_of_ne a h]
    exact .inr ⟨rfl, Nat.lt_succ_self _⟩

end LineColumn

theorem lineColumnAt_lt {text : List Char} {a b : Nat} (h : a < b) (hb : b ≤ text.length) :
    lineColumnAt text a < lineColumnAt text b := by
  induction h with
  | refl =>
    rw [lineColumnAt_succ (List.getElem?_eq_getElem hb)]
    exact LineColumn.lt_after _ _
  | @step b _ ih =>
    rw [lineColumnAt_succ (List.getElem?_eq_getElem hb)]
    exact LineColumn.lt_trans (ih (Nat.le_of_succ_le hb)) (LineColumn.lt_after _ _)

/-- Offsets and their lines and columns are in the same order. -/
theorem compare_lineColumnAt {text : List Char} {a b : Nat} (ha : a ≤ text.length)
    (hb : b ≤ text.length) :
    compare (lineColumnAt text a) (lineColumnAt text b) = compare a b := by
  rcases Nat.lt_trichotomy a b with h | h | h
  · rw [Nat.compare_eq_lt.2 h, LineColumn.compare_eq_lt]
    exact lineColumnAt_lt h hb
  · rw [Nat.compare_eq_eq.2 h, LineColumn.compare_eq_eq, h]
  · rw [Nat.compare_eq_gt.2 h, LineColumn.compare_eq_gt]
    exact lineColumnAt_lt h ha

theorem lineColumnAt_inj {text : List Char} {a b : Nat} (ha : a ≤ text.length)
    (hb : b ≤ text.length) : lineColumnAt text a = lineColumnAt text b ↔ a = b := by
  rw [← LineColumn.compare_eq_eq, compare_lineColumnAt ha hb, Nat.compare_eq_eq]

theorem length_unlines (lines : List (List Char)) :
    (unlines lines).length = (lines.map (fun line => line.length + 1)).sum := by
  induction lines with
  | nil => rfl
  | cons line lines ih =>
    rw [unlines_cons, List.length_append, List.length_cons, ih, List.map_cons, List.sum_cons]
    omega

theorem length_linesOf (text : List Char) : (linesOf text).length = text.count '\n' + 1 := by
  induction text with
  | nil => rfl
  | cons c text ih =>
    rw [linesOf, List.splitOn_cons_eq_if_modifyHead, List.count_cons, Nat.add_right_comm, ← ih]
    split
    · rfl
    · rw [List.length_modifyHead]
      rfl

/-- The places in lines: at each character of a line, and at its end. -/
def placesOf (lines : List (List Char)) : Set LineColumn :=
  {location | 1 ≤ location.line ∧ location.line ≤ lines.length ∧ 1 ≤ location.column ∧
    ∃ line, lines[location.line - 1]? = some line ∧ location.column ≤ line.length + 1}

/-- The offset of a place in lines. Each line before takes its length and a newline. -/
def offsetOf (lines : List (List Char)) (location : LineColumn) : Nat :=
  ((lines.take (location.line - 1)).map (fun line => line.length + 1)).sum + location.column - 1

namespace LineCut

theorem location_mem (cut : LineCut) : cut.location ∈ placesOf cut.lines := by
  refine ⟨Nat.le_add_left 1 _, ?_, Nat.le_add_left 1 _, cut.line, cut.lines_line, ?_⟩
  · simp [location, lines]
  · simp [location, line]

theorem offsetOf_location (cut : LineCut) : offsetOf cut.lines cut.location = cut.offset := by
  have hfront : cut.lines.take (cut.location.line - 1) = cut.front := by
    simp [lines, location]
  rw [offsetOf, hfront, ← length_unlines]
  rfl

end LineCut

theorem lineColumnAt_mem {text : List Char} {offset : Nat} (h : offset ≤ text.length) :
    lineColumnAt text offset ∈ placesOf (linesOf text) := by
  obtain ⟨cut, rfl, rfl⟩ := exists_cut h
  rw [cut.lineColumnAt_offset, cut.linesOf_text]
  exact cut.location_mem

theorem offsetOf_lineColumnAt {text : List Char} {offset : Nat} (h : offset ≤ text.length) :
    offsetOf (linesOf text) (lineColumnAt text offset) = offset := by
  obtain ⟨cut, rfl, rfl⟩ := exists_cut h
  rw [cut.lineColumnAt_offset, cut.linesOf_text, cut.offsetOf_location]

theorem lineColumnAt_offsetOf {text : List Char} {location : LineColumn}
    (h : location ∈ placesOf (linesOf text)) :
    offsetOf (linesOf text) location ≤ text.length ∧
      lineColumnAt text (offsetOf (linesOf text) location) = location := by
  obtain ⟨hline, _, hcolumn, line, hi, hle⟩ := h
  obtain ⟨cut, rfl, hl⟩ := exists_cut_of_line hi (Nat.sub_le_of_le_add hle)
  have hl : location = cut.location := by
    rw [hl, Nat.sub_add_cancel hline, Nat.sub_add_cancel hcolumn]
  rw [hl, cut.linesOf_text, cut.offsetOf_location, cut.lineColumnAt_offset]
  exact ⟨cut.offset_le, rfl⟩

namespace Position

variable {p q : Position}

theorem compare?_eq (hs : p.source = q.source) (hp : p.InBounds) (hq : q.InBounds) :
    p.compare? q = some (compare p.lineColumn q.lineColumn) := by
  have hq' : q.offset ≤ p.source.text.length := by
    rw [hs]
    exact hq
  rw [compare?, if_pos (congrArg Source.id hs), lineColumn, lineColumn, ← hs,
    compare_lineColumnAt hp hq']

theorem lt_iff_lineColumn (hs : p.source = q.source) (hp : p.InBounds) (hq : q.InBounds) :
    p < q ↔ p.lineColumn < q.lineColumn := by
  change p.compare? q = some .lt ↔ _
  rw [compare?_eq hs hp hq, Option.some.injEq, LineColumn.compare_eq_lt]

theorem beq_iff_lineColumn (hs : p.source = q.source) (hp : p.InBounds) (hq : q.InBounds) :
    (p == q) = true ↔ p.lineColumn = q.lineColumn := by
  have hc := compare?_eq hs hp hq
  rw [compare?, if_pos (congrArg Source.id hs), Option.some.injEq] at hc
  rw [beq_iff, hs, ← LineColumn.compare_eq_eq, ← hc, Nat.compare_eq_eq]
  exact and_iff_right rfl

end Position

/-- Offsets and the places in the lines of a text correspond to each other one to one, and in the
same order. -/
theorem lineColumn_orderIso (source : Source) :
    let lines := linesOf source.text
    let lineColumn := fun offset => (Position.mk source offset).lineColumn
    lines.length = source.text.count '\n' + 1 ∧
      (∀ offset ≤ source.length, source.position offset = .ok ⟨source, offset⟩) ∧
      Set.BijOn lineColumn (Set.Iic source.length) (placesOf lines) ∧
      Set.InvOn (offsetOf lines) lineColumn (Set.Iic source.length) (placesOf lines) ∧
      ∀ p q : Position, p.source = source → q.source = source → p.InBounds → q.InBounds →
        p.compare? q = some (compare p.lineColumn q.lineColumn) ∧
          (p < q ↔ p.lineColumn < q.lineColumn) ∧
          ((p == q) = true ↔ p.lineColumn = q.lineColumn) ∧
          (p > q ↔ p.lineColumn > q.lineColumn) := by
  intro lines lineColumn
  have hleft : Set.LeftInvOn (offsetOf lines) lineColumn (Set.Iic source.length) :=
    fun offset h => offsetOf_lineColumnAt h
  have hright : Set.RightInvOn (offsetOf lines) lineColumn (placesOf lines) :=
    fun location h => (lineColumnAt_offsetOf h).2
  refine ⟨length_linesOf source.text, ?_, ⟨?_, Set.LeftInvOn.injOn hleft, ?_⟩, ⟨hleft, hright⟩, ?_⟩
  · intro offset h
    rw [Source.position, if_pos h]
  · exact fun offset h => lineColumnAt_mem h
  · intro location h
    exact ⟨offsetOf lines location, (lineColumnAt_offsetOf h).1, hright h⟩
  · intro p q hp hq hpb hqb
    have hs : p.source = q.source := hp.trans hq.symm
    exact ⟨p.compare?_eq hs hpb hqb, p.lt_iff_lineColumn hs hpb hqb,
      p.beq_iff_lineColumn hs hpb hqb, q.lt_iff_lineColumn hs.symm hqb hpb⟩

end TextLocation
