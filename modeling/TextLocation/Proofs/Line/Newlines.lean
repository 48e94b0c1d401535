import Mathlib.Order.Bounds.Basic
import TextLocation.Proofs.Line.Invariant
import TextLocation.Proofs.Line.Pieces

namespace TextLocation

/-- A line begins at the start of a text and behind each newline. -/
def BeginsLine (text : List Char) (offset : Nat) : Prop :=
  offset = 0 ∨ text[offset - 1]? = some '\n'

/-- A line ends at each newline and at the end of a text. -/
def EndsLine (text : List Char) (offset : Nat) : Prop :=
  offset = text.length ∨ text[offset]? = some '\n'

section

variable {text behind ahead : List Char} {c : Char} {offset limit : Nat}

theorem beginsLine_append_iff (ahead : List Char) (h : offset ≤ behind.length) :
    BeginsLine (behind ++ ahead) offset ↔ BeginsLine behind offset := by
  cases offset with
  | zero => exact iff_of_true (.inl rfl) (.inl rfl)
  | succ before =>
    rw [BeginsLine, BeginsLine, Nat.add_sub_cancel, List.getElem?_append_left h]

theorem beginsLine_take_iff (h : offset ≤ (text.take limit).length) :
    BeginsLine (text.take limit) offset ↔ BeginsLine text offset := by
  have happend := beginsLine_append_iff (text.drop limit) h
  rw [List.take_append_drop] at happend
  exact happend.symm

theorem beginsLine_concat_length :
    BeginsLine (behind ++ [c]) (behind.length + 1) ↔ c = '\n' := by
  simp [BeginsLine]

theorem endsLine_cons_zero : EndsLine (c :: ahead) 0 ↔ c = '\n' := by
  simp [EndsLine]

theorem endsLine_cons_succ : EndsLine (c :: ahead) (offset + 1) ↔ EndsLine ahead offset := by
  simp [EndsLine]

theorem endsLine_drop_iff (h : limit ≤ text.length) :
    EndsLine (text.drop limit) offset ↔ EndsLine text (limit + offset) := by
  rw [EndsLine, EndsLine, List.length_drop, List.getElem?_drop]
  apply or_congr_left
  omega

/-- The offsets of a text at which its lines begin. -/
def lineStarts (text : List Char) : Set Nat := {start | start ≤ text.length ∧ BeginsLine text start}

theorem isGreatest_lineStarts_newline (behind : List Char) :
    IsGreatest (lineStarts (behind ++ ['\n'])) (behind.length + 1) := by
  have hlength : (behind ++ ['\n']).length = behind.length + 1 := List.length_append
  refine ⟨⟨Nat.le_of_eq hlength.symm, beginsLine_concat_length.2 rfl⟩, ?_⟩
  rintro start ⟨hle, _⟩
  rwa [hlength] at hle

theorem lineStarts_concat (h : c ≠ '\n') : lineStarts (behind ++ [c]) = lineStarts behind := by
  ext start
  constructor
  · rintro ⟨hle, hbegins⟩
    rw [List.length_append] at hle
    rcases Nat.le_succ_iff.1 hle with hbehind | rfl
    · exact ⟨hbehind, (beginsLine_append_iff _ hbehind).1 hbegins⟩
    · exact absurd (beginsLine_concat_length.1 hbegins) h
  · rintro ⟨hle, hbegins⟩
    refine ⟨?_, (beginsLine_append_iff _ hle).2 hbegins⟩
    rw [List.length_append]
    exact Nat.le_succ_of_le hle

end

/-- What a walk has noted of the line that it is in, seen from the text behind it: the line began
at the last place where one could, and the column counts the characters from there. -/
structure LineWalk.Tracks (walk : LineWalk) (behind : List Char) : Prop where
  offset_eq : walk.offset = behind.length
  lineStart_greatest : IsGreatest (lineStarts behind) walk.lineStart
  lineStart_add_column : walk.lineStart + walk.location.column = walk.offset + 1

namespace LineWalk

theorem tracks_start : start.Tracks [] :=
  ⟨rfl, ⟨⟨Nat.le_refl 0, .inl rfl⟩, fun _ hstart => hstart.1⟩, rfl⟩

theorem Tracks.step {walk : LineWalk} {behind : List Char} (h : walk.Tracks behind) (c : Char) :
    (walk.step c).Tracks (behind ++ [c]) := by
  obtain ⟨hoffset, hgreatest, hcolumn⟩ := h
  have hlength : walk.offset + 1 = (behind ++ [c]).length := by
    rw [List.length_append, hoffset]
    rfl
  by_cases hc : c = '\n'
  · subst hc
    rw [step_newline]
    refine ⟨hlength, ?_, rfl⟩
    rw [hoffset]
    exact isGreatest_lineStarts_newline behind
  · rw [step_of_ne walk hc]
    refine ⟨hlength, ?_, ?_⟩
    · rw [lineStarts_concat hc]
      exact hgreatest
    · rw [← Nat.add_assoc, hcolumn]

theorem tracks_through (text : List Char) : (through text).Tracks text := by
  induction text using List.reverseRecOn with
  | nil => exact tracks_start
  | append_singleton text c ih =>
    rw [through_concat]
    exact ih.step c

end LineWalk

/-- The characters ahead that are no newline lead to the first place where a line ends. -/
theorem isLeast_length_takeWhile (ahead : List Char) :
    IsLeast {stop | EndsLine ahead stop} (ahead.takeWhile (· ≠ '\n')).length := by
  induction ahead with
  | nil => exact ⟨.inl rfl, fun _ _ => Nat.zero_le _⟩
  | cons c ahead ih =>
    by_cases hc : c = '\n'
    · rw [List.takeWhile_cons_of_neg (by simpa using hc)]
      exact ⟨endsLine_cons_zero.2 hc, fun _ _ => Nat.zero_le _⟩
    · rw [List.takeWhile_cons_of_pos (by simpa using hc), List.length_cons]
      refine ⟨endsLine_cons_succ.2 ih.1, ?_⟩
      intro stop hstop
      cases stop with
      | zero => exact absurd (endsLine_cons_zero.1 hstop) hc
      | succ stop => exact Nat.succ_le_succ (ih.2 (endsLine_cons_succ.1 hstop))

variable (text : List Char) (offset : Nat)

theorem lineColumnAt_eq :
    lineColumnAt text offset =
      ⟨1 + (text.take offset).count '\n', 1 + (lastLine (text.take offset)).length⟩ := by
  rw [lineColumnAt_past text (Nat.zero_le offset)]
  exact LineColumn.past_first _

theorem isGreatest_start_lineBoundsAt :
    IsGreatest {start | start ≤ min offset text.length ∧ BeginsLine text start}
      (lineBoundsAt text offset).start := by
  obtain ⟨⟨hle, hbegins⟩, hgreatest⟩ :=
    (LineWalk.tracks_through (text.take offset)).lineStart_greatest
  refine ⟨⟨start_lineBoundsAt_le text offset, (beginsLine_take_iff hle).1 hbegins⟩, ?_⟩
  rintro start ⟨hlimit, hstart⟩
  rw [← List.length_take] at hlimit
  exact hgreatest ⟨hlimit, (beginsLine_take_iff hlimit).2 hstart⟩

theorem isLeast_stop_lineBoundsAt :
    IsLeast {stop | min offset text.length ≤ stop ∧ EndsLine text stop}
      (lineBoundsAt text offset).stop := by
  have hle := Nat.min_le_right offset text.length
  obtain ⟨hends, hleast⟩ := isLeast_length_takeWhile (text.drop (min offset text.length))
  rw [← lineBoundsAt_min]
  change IsLeast _ ((LineWalk.through (text.take (min offset text.length))).offset + _)
  rw [LineWalk.offset_through_take, Nat.min_eq_left hle]
  refine ⟨⟨Nat.le_add_right _ _, (endsLine_drop_iff hle).1 hends⟩, ?_⟩
  rintro stop ⟨hlimit, hstop⟩
  obtain ⟨count, rfl⟩ := Nat.exists_eq_add_of_le hlimit
  exact Nat.add_le_add_left (hleast ((endsLine_drop_iff hle).2 hstop)) _

theorem column_lineColumnAt :
    (lineColumnAt text offset).column =
      min offset text.length - (lineBoundsAt text offset).start + 1 := by
  have hsum := (LineWalk.tracks_through (text.take offset)).lineStart_add_column
  rw [LineWalk.offset_through_take] at hsum
  have hle := start_lineBoundsAt_le text offset
  change (lineBoundsAt text offset).start + (lineColumnAt text offset).column = _ at hsum
  omega

/-- Between the bounds of a line there is no newline: behind the offset a line would begin after
it, and from the offset on one would end there. -/
theorem newline_lineBoundsAt {i : Nat} (hstart : (lineBoundsAt text offset).start ≤ i)
    (hstop : i < (lineBoundsAt text offset).stop) : text[i]? ≠ some '\n' := by
  intro hn
  rcases Nat.lt_or_ge i (min offset text.length) with hlt | hge
  · have hbegins := (isGreatest_start_lineBoundsAt text offset).2 ⟨hlt, .inr hn⟩
    omega
  · have hends := (isLeast_stop_lineBoundsAt text offset).2 ⟨hge, .inr hn⟩
    omega

theorem exists_cut_lineBoundsAt :
    ∃ cut : LineCut, cut.text = text ∧
      lineBoundsAt text offset = ⟨cut.location, (unlines cut.front).length, cut.lineEnd⟩ := by
  obtain ⟨cut, rfl, ho⟩ := exists_cut (Nat.min_le_right offset text.length)
  refine ⟨cut, rfl, ?_⟩
  rw [← lineBoundsAt_min, ← ho, cut.lineBoundsAt_offset]

/-- The line of an offset has its first column where its bounds begin. -/
theorem lineColumnAt_start_lineBoundsAt :
    lineColumnAt text (lineBoundsAt text offset).start = ⟨(lineColumnAt text offset).line, 1⟩ := by
  change _ = LineColumn.mk (lineBoundsAt text offset).location.line 1
  obtain ⟨cut, rfl, hbounds⟩ := exists_cut_lineBoundsAt text offset
  have hfront : cut.text.take (unlines cut.front).length = unlines cut.front := by
    rw [LineCut.text, List.append_assoc, List.take_left]
  rw [hbounds, lineColumnAt, hfront, LineWalk.through_unlines cut.front_newline]
  rfl

theorem lineBoundsAt_eq_of_line_eq {text : List Char} {a b : Nat}
    (h : (lineColumnAt text a).line = (lineColumnAt text b).line) :
    (lineBoundsAt text a).start = (lineBoundsAt text b).start ∧
      (lineBoundsAt text a).stop = (lineBoundsAt text b).stop := by
  obtain ⟨cut, ht, ha⟩ := exists_cut_lineBoundsAt text a
  obtain ⟨other, ht', hb⟩ := exists_cut_lineBoundsAt text b
  change (lineBoundsAt text a).location.line = (lineBoundsAt text b).location.line at h
  rw [ha, hb] at h
  obtain ⟨hfront, hline, _⟩ := LineCut.eq_of_line_eq (ht.trans ht'.symm) h
  rw [ha, hb, LineCut.lineEnd, LineCut.lineEnd, hfront, hline]
  exact ⟨rfl, rfl⟩

/-- What a walk to an offset counts step by step is what the newlines of the text say. The line is
one more than the newlines behind the offset, the column one more than the characters behind the
last of them. The line runs from the last place behind the offset where one begins to the first
place ahead where one ends. -/
structure CountsNewlines (text : List Char) (offset : Nat) : Prop where
  line_eq : (lineColumnAt text offset).line =
    1 + (text.take (min offset text.length)).count '\n'
  column_eq : (lineColumnAt text offset).column =
    1 + (lastLine (text.take (min offset text.length))).length
  location_eq : (lineBoundsAt text offset).location = lineColumnAt text offset
  start_isGreatest : IsGreatest {start | start ≤ min offset text.length ∧ BeginsLine text start}
    (lineBoundsAt text offset).start
  stop_isLeast : IsLeast {stop | min offset text.length ≤ stop ∧ EndsLine text stop}
    (lineBoundsAt text offset).stop
  column_eq_sub : (lineColumnAt text offset).column =
    min offset text.length - (lineBoundsAt text offset).start + 1
  newline_ne : ∀ i, (lineBoundsAt text offset).start ≤ i → i < (lineBoundsAt text offset).stop →
    text[i]? ≠ some '\n'

theorem countsNewlines (text : List Char) (offset : Nat) : CountsNewlines text offset where
  line_eq := by rw [← lineColumnAt_min, lineColumnAt_eq]
  column_eq := by rw [← lineColumnAt_min, lineColumnAt_eq]
  location_eq := rfl
  start_isGreatest := isGreatest_start_lineBoundsAt text offset
  stop_isLeast := isLeast_stop_lineBoundsAt text offset
  column_eq_sub := column_lineColumnAt text offset
  newline_ne _ hstart hstop := newline_lineBoundsAt text offset hstart hstop

/-- Walks count newlines, and offsets share a line just when they share its bounds. -/
theorem lineLookups_by_newlines (text : List Char) :
    (∀ offset, CountsNewlines text offset) ∧
      ∀ a b,
        (lineBoundsAt text a).start = (lineBoundsAt text b).start ∧
            (lineBoundsAt text a).stop = (lineBoundsAt text b).stop ↔
          (lineColumnAt text a).line = (lineColumnAt text b).line := by
  refine ⟨countsNewlines text, ?_⟩
  intro a b
  refine ⟨?_, lineBoundsAt_eq_of_line_eq⟩
  rintro ⟨hstart, _⟩
  have hplace := lineColumnAt_start_lineBoundsAt text a
  rw [hstart, lineColumnAt_start_lineBoundsAt, LineColumn.mk.injEq] at hplace
  exact hplace.1.symm

/-- An offset on the second of two newlines, and one past the end. -/
theorem lineLookups_by_newlines_empty_line :
    let text := ['a', '\n', '\n', 'b']
    lineBoundsAt text 2 = ⟨⟨2, 1⟩, 2, 2⟩ ∧
      IsGreatest {start | start ≤ 2 ∧ BeginsLine text start} 2 ∧
      IsLeast {stop | 2 ≤ stop ∧ EndsLine text stop} 2 ∧
      (lineColumnAt text 9).column = 1 + ['b'].length ∧
      (lineBoundsAt text 9).start ≤ 3 ∧ 3 < (lineBoundsAt text 9).stop ∧ text[3]? ≠ some '\n' ∧
      (lineColumnAt text 2).line ≠ (lineColumnAt text 9).line := by
  intro text
  obtain ⟨hcounts, hlines⟩ := lineLookups_by_newlines text
  have hle : (lineBoundsAt text 9).start ≤ 3 := by decide
  have hlt : 3 < (lineBoundsAt text 9).stop := by decide
  refine ⟨by decide, (hcounts 2).start_isGreatest, (hcounts 2).stop_isLeast,
    (hcounts 9).column_eq, hle, hlt, (hcounts 9).newline_ne 3 hle hlt, ?_⟩
  exact fun he => absurd ((hlines 2 9).2 he) (by decide)

end TextLocation
