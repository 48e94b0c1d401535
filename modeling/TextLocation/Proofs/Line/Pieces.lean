import Mathlib.Data.List.Chain
import Mathlib.Data.List.DropRight
import TextLocation.Proofs.Bounds
import TextLocation.Proofs.Line.Agreement

namespace TextLocation

/-- The characters behind the last newline, or all if there is none. -/
def lastLine (text : List Char) : List Char := text.rtakeWhile (· ≠ '\n')

theorem lastLine_concat_newline (text : List Char) : lastLine (text ++ ['\n']) = [] := by
  rw [lastLine, List.rtakeWhile_concat]
  exact if_neg (by decide)

theorem lastLine_concat_of_ne {c : Char} (text : List Char) (h : c ≠ '\n') :
    lastLine (text ++ [c]) = lastLine text ++ [c] := by
  rw [lastLine, List.rtakeWhile_concat, lastLine]
  exact if_pos (decide_eq_true h)

theorem lastLine_append_newline {last : List Char} (front : List Char) (h : '\n' ∉ last) :
    lastLine (front ++ '\n' :: last) = last := by
  induction last using List.reverseRecOn with
  | nil => exact lastLine_concat_newline front
  | append_singleton last c ih =>
    have hc : c ≠ '\n' := by
      rintro rfl
      exact h (by simp)
    have hlast := ih fun hn => h (List.mem_append_left _ hn)
    rw [← List.cons_append, ← List.append_assoc, lastLine_concat_of_ne _ hc, hlast]

theorem lastLine_eq_self {text : List Char} (h : '\n' ∉ text) : lastLine text = text := by
  rw [lastLine, List.rtakeWhile_eq_self_iff]
  intro c hc
  simp only [decide_eq_true_eq]
  rintro rfl
  exact h hc

namespace LineColumn

/-- The place behind a run that begins at a place. Of the text before the run nothing else is
needed. -/
def past (location : LineColumn) (run : Run) : LineColumn where
  line := location.line + run.chars.count '\n'
  column :=
    if '\n' ∈ run.chars then (lastLine run.chars).length + 1
    else location.column + run.length

theorem past_concat (location : LineColumn) (text : List Char) (c : Char) :
    location.past ⟨text ++ [c]⟩ = (location.past ⟨text⟩).after c := by
  by_cases hc : c = '\n'
  · subst hc
    have hmem : '\n' ∈ text ++ ['\n'] := by simp
    rw [after_newline, past, lastLine_concat_newline, if_pos hmem, List.count_append,
      List.count_singleton_self, List.length_nil, Nat.zero_add, past, Nat.add_assoc]
  · have hcount : (text ++ [c]).count '\n' = text.count '\n' := by
      rw [List.count_append, List.count_singleton, if_neg (by simpa using hc), Nat.add_zero]
    have hmem : '\n' ∈ text ++ [c] ↔ '\n' ∈ text := by simp [Ne.symm hc]
    rw [after_of_ne _ hc, past, hcount, lastLine_concat_of_ne text hc, past]
    simp only [hmem, Run.length, List.length_append, List.length_singleton, LineColumn.mk.injEq,
      true_and]
    split <;> omega

theorem foldl_after (location : LineColumn) (text : List Char) :
    text.foldl after location = location.past ⟨text⟩ := by
  induction text using List.reverseRecOn with
  | nil => rfl
  | append_singleton text c ih =>
    rw [List.foldl_append, ih, List.foldl_cons, List.foldl_nil, past_concat]

theorem past_column {location : LineColumn} {run : Run} (h : '\n' ∉ run.chars) :
    (location.past run).column = location.column + run.length :=
  if_neg h

theorem past_column_newline {location : LineColumn} {run : Run} {front last : List Char}
    (h : run.chars = front ++ '\n' :: last) (hlast : '\n' ∉ last) :
    (location.past run).column = last.length + 1 := by
  have hmem : '\n' ∈ run.chars := by simp [h]
  rw [past, if_pos hmem, h, lastLine_append_newline front hlast]

theorem past_first (text : List Char) :
    first.past ⟨text⟩ = ⟨1 + text.count '\n', 1 + (lastLine text).length⟩ := by
  by_cases h : '\n' ∈ text
  · rw [past, if_pos h, Nat.add_comm (lastLine text).length]
    rfl
  · rw [past, if_neg h, lastLine_eq_self h]
    rfl

end LineColumn

theorem LineWalk.location_foldl_step (text : List Char) (walk : LineWalk) :
    (text.foldl step walk).location = text.foldl LineColumn.after walk.location := by
  induction text generalizing walk with
  | nil => rfl
  | cons c text ih => exact ih (walk.step c)

/-- The walk to an offset may be broken off before it and taken up again with the place reached. -/
theorem lineColumnAt_past (text : List Char) {start stop : Nat} (h : start ≤ stop) :
    lineColumnAt text stop =
      (lineColumnAt text start).past ⟨(text.drop start).take (stop - start)⟩ := by
  have htake : text.take stop = text.take start ++ (text.drop start).take (stop - start) := by
    rw [← List.take_add, Nat.add_sub_cancel' h]
  rw [lineColumnAt, htake, LineWalk.through_append, LineWalk.location_foldl_step,
    LineColumn.foldl_after, lineColumnAt]

variable {source : Source} {span : Span} {spans : List Span} {start : Nat}

theorem Span.exists_slice_past (hb : span.InBounds) (h : span.start ≤ span.stop) :
    ∃ run, span.slice = .ok run ∧ run.length = span.length ∧
      span.stopPosition.lineColumn = span.startPosition.lineColumn.past run := by
  refine ⟨_, Span.slice_eq_ok hb h, ?_, lineColumnAt_past span.source.text h⟩
  rw [Run.length, List.length_take, List.length_drop]
  exact Nat.min_eq_left (Nat.sub_le_sub_right hb.2 _)

/-- From the place where the first of some spans starts that lie end to end, the slices lead to the
place where each stops. -/
theorem scanl_past (hspans : ∀ span ∈ spans, span.source = source ∧ span.InBounds ∧
      span.start ≤ span.stop) (hstart : ∀ span ∈ spans.head?, span.start = start)
    (hchain : spans.IsChain fun a b => b.start = a.stop) :
    ∃ runs : List Run, spans.map Span.slice = runs.map .ok ∧
      runs.scanl LineColumn.past (Position.mk source start).lineColumn =
        (Position.mk source start).lineColumn ::
          spans.map fun span => span.stopPosition.lineColumn := by
  -- The place noted is that of the next span's start, so the induction is over every start.
  induction spans generalizing start with
  | nil => exact ⟨[], rfl, rfl⟩
  | cons span spans ih =>
    obtain ⟨⟨rfl, hb, hle⟩, hlater⟩ := List.forall_mem_cons.1 hspans
    obtain rfl : span.start = start := hstart span rfl
    obtain ⟨hnext, hchain⟩ := List.isChain_cons.1 hchain
    obtain ⟨run, hslice, _, hpast⟩ := span.exists_slice_past hb hle
    obtain ⟨runs, hruns, hscanl⟩ := ih hlater hnext hchain
    refine ⟨run :: runs, ?_, ?_⟩
    · rw [List.map_cons, hslice, hruns, List.map_cons]
    · have hstop : (Position.mk span.source span.start).lineColumn.past run =
        (Position.mk span.source span.stop).lineColumn := hpast.symm
      rw [List.scanl_cons, hstop, hscanl]
      rfl

/-- A slice alone says how far its span leads in lines and columns, whatever is before it. So who
notes a place and takes it on by the slices of spans that lie end to end always has the place that
a walk from the start of the text finds. -/
theorem lineColumns_by_pieces (source : Source) :
    (∀ span : Span, span.source = source → span.InBounds → span.start ≤ span.stop →
      ∃ run, span.slice = .ok run ∧
        span.lineColumns.2 = span.lineColumns.1.past run ∧
        span.lineColumns.2.line = span.lineColumns.1.line + run.chars.count '\n' ∧
        ('\n' ∉ run.chars →
          span.lineColumns.2.column = span.lineColumns.1.column + span.length) ∧
        ∀ front last, run.chars = front ++ '\n' :: last → '\n' ∉ last →
          span.lineColumns.2.column = 1 + last.length) ∧
      (∀ spans : List Span,
        (∀ span ∈ spans, span.source = source ∧ span.InBounds ∧ span.start ≤ span.stop) →
        (∀ span ∈ spans.head?, span.start = 0) → (spans.IsChain fun a b => b.start = a.stop) →
        ∃ runs : List Run, spans.map Span.slice = runs.map .ok ∧
          runs.scanl LineColumn.past .first =
            .first :: spans.map fun span => span.stopPosition.lineColumn) ∧
      ∀ start stop, (Span.mk source stop start).lineColumns =
        (Span.mk source start stop).lineColumns.swap := by
  refine ⟨?_, fun spans hspans hstart hchain => scanl_past hspans hstart hchain, ?_⟩
  · intro span _ hb hle
    obtain ⟨run, hslice, hlength, hpast⟩ := span.exists_slice_past hb hle
    have hends : span.lineColumns.2 = span.lineColumns.1.past run := by
      rw [span.lineColumns_eq]
      exact hpast
    refine ⟨run, hslice, hends, ?_, ?_, ?_⟩
    · rw [hends]
      rfl
    · intro hn
      rw [hends, LineColumn.past_column hn, hlength]
    · intro front last hrun hlast
      rw [hends, LineColumn.past_column_newline hrun hlast, Nat.add_comm]
  · intro start stop
    rw [Span.lineColumns_eq, Span.lineColumns_eq]
    rfl

/-- A piece that ends on a newline, one with nothing in it, and one without a newline. -/
theorem lineColumns_by_pieces_reset :
    let source : Source := ⟨⟨0⟩, "f", ['a', 'b', '\n', 'c', 'd']⟩
    let spans : List Span := [⟨source, 0, 3⟩, ⟨source, 3, 3⟩, ⟨source, 3, 5⟩]
    (∀ span ∈ spans, span.source = source ∧ span.InBounds ∧ span.start ≤ span.stop) ∧
      (spans.IsChain fun a b => b.start = a.stop) ∧
      (∃ run, (Span.mk source 1 3).slice = .ok run ∧
        (Span.mk source 1 3).lineColumns.2 = LineColumn.past ⟨1, 2⟩ run) ∧
      ∃ runs : List Run, spans.map Span.slice = runs.map .ok ∧
        runs.scanl LineColumn.past .first = [⟨1, 1⟩, ⟨2, 1⟩, ⟨2, 1⟩, ⟨2, 3⟩] := by
  intro source spans
  have hspans : ∀ span ∈ spans, span.source = source ∧ span.InBounds ∧ span.start ≤ span.stop := by
    simp [spans, Span.InBounds, source, Source.length]
  have hchain : spans.IsChain fun a b => b.start = a.stop := by
    simp [spans]
  have hhead : ∀ span ∈ spans.head?, span.start = 0 := by
    simp [spans]
  obtain ⟨hspan, htracked, _⟩ := lineColumns_by_pieces source
  obtain ⟨run, hslice, hpast, _⟩ := hspan ⟨source, 1, 3⟩ rfl (by decide) (by decide)
  exact ⟨hspans, hchain, ⟨run, hslice, hpast⟩, htracked spans hspans hhead hchain⟩

end TextLocation
