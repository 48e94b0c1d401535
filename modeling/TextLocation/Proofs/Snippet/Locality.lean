import TextLocation.Proofs.Snippet.Line

namespace TextLocation

theorem count_unlines {lines : List (List Char)} (h : ∀ line ∈ lines, '\n' ∉ line) :
    (unlines lines).count '\n' = lines.length := by
  induction lines with
  | nil => rfl
  | cons line lines ih =>
    have hline : line.count '\n' = 0 := List.count_eq_zero.2 (h line List.mem_cons_self)
    have hlines := ih fun l hl => h l (List.mem_cons_of_mem line hl)
    rw [unlines_cons, List.count_append, hline, List.count_cons_self, hlines, List.length_cons,
      Nat.zero_add]

/-- A text that ends with a newline, or is empty, is made of whole lines. -/
theorem exists_unlines {text : List Char} (h : text = [] ∨ text.getLast? = some '\n') :
    ∃ lines, (∀ line ∈ lines, '\n' ∉ line) ∧ unlines lines = text := by
  rcases h with rfl | h
  · exact ⟨[], by simp, rfl⟩
  · -- At the end of the text, a cut has whole lines and part of a line to its left.
    obtain ⟨cut, ht, ho⟩ := exists_cut (Nat.le_refl text.length)
    have htext : unlines cut.front ++ cut.left = text := by
      rw [← cut.take_offset, ht, ho, List.take_length]
    refine ⟨cut.front, cut.front_newline, ?_⟩
    cases hl : cut.left.getLast? with
    | none =>
      rw [List.getLast?_eq_none_iff] at hl
      rwa [hl, List.append_nil] at htext
    | some c =>
      rw [← htext, List.getLast?_append, hl, Option.some_or] at h
      cases h
      exact absurd (List.mem_of_getLast? hl) cut.left_newline

theorem exists_newLines {text : List Char} (h : text = [] ∨ text.head? = some '\n') :
    ∃ lines, (∀ line ∈ lines, '\n' ∉ line) ∧ newLines lines = text := by
  obtain ⟨cut, ht, ho⟩ := exists_cut (Nat.zero_le text.length)
  have htext : cut.right ++ newLines cut.back = text := by
    rw [← cut.drop_offset, ht, ho, List.drop_zero]
  have hright : cut.right = [] := by
    apply cut.right_eq_nil
    rw [ht, ho, ← List.head?_eq_getElem?]
    exact h.imp_left List.head?_eq_none_iff.2
  rw [hright, List.nil_append] at htext
  exact ⟨cut.back, cut.back_newline, htext⟩

section

variable {text before after : List Char}
  (hbefore : before = [] ∨ before.getLast? = some '\n')
  (hafter : after = [] ∨ after.head? = some '\n')

include hbefore hafter

/-- A cut of a text, and the cut at the same place once whole lines are put around the text. -/
theorem exists_cut_amid {offset : Nat} (h : offset ≤ text.length) :
    ∃ cut outer : LineCut, cut.text = text ∧ cut.offset = offset ∧
      outer.text = before ++ text ++ after ∧ outer.offset = before.length + offset ∧
      outer.location = ⟨cut.location.line + before.count '\n', cut.location.column⟩ ∧
      outer.line = cut.line ∧ outer.lineEnd = before.length + cut.lineEnd := by
  obtain ⟨front, hfront, rfl⟩ := exists_unlines hbefore
  obtain ⟨back, hback, rfl⟩ := exists_newLines hafter
  obtain ⟨cut, rfl, rfl⟩ := exists_cut h
  have hlocation : (LineCut.amid front cut back hfront hback).location = _ :=
    LineCut.location_amid hfront hback
  rw [← count_unlines hfront] at hlocation
  exact ⟨cut, .amid front cut back hfront hback, rfl, rfl, LineCut.text_amid hfront hback,
    LineCut.offset_amid hfront hback, hlocation, rfl, LineCut.lineEnd_amid hfront hback⟩

theorem lineColumnAt_amid {offset : Nat} (h : offset ≤ text.length) :
    lineColumnAt (before ++ text ++ after) (before.length + offset) =
      ⟨(lineColumnAt text offset).line + before.count '\n', (lineColumnAt text offset).column⟩ := by
  obtain ⟨cut, outer, ht, ho, ht', ho', hlocation, _, _⟩ := exists_cut_amid hbefore hafter h
  rw [← ht', ← ho', outer.lineColumnAt_offset, hlocation, ← ht, ← ho, cut.lineColumnAt_offset]

variable {inner outer : Source} (ht : outer.text = before ++ inner.text ++ after)
  {start stop : Nat} (hstart : start ≤ inner.length)

include ht hstart

theorem Span.lineColumns_amid (hstop : stop ≤ inner.length) :
    (Span.mk outer (before.length + start) (before.length + stop)).lineColumns =
      let (first, last) := (Span.mk inner start stop).lineColumns
      (⟨first.line + before.count '\n', first.column⟩,
        ⟨last.line + before.count '\n', last.column⟩) := by
  simp only [lineColumns, lineColumnsAt_eq, ht, lineColumnAt_amid hbefore hafter hstart,
    lineColumnAt_amid hbefore hafter hstop]

theorem Span.snippet_amid (stop : Nat) :
    (Span.mk outer (before.length + start) (before.length + stop)).snippet =
      let snippet := (Span.mk inner start stop).snippet
      { snippet with
        name := outer.name
        location := ⟨snippet.location.line + before.count '\n', snippet.location.column⟩ } := by
  obtain ⟨cut, around, hct, hco, hat, hao, hlocation, hline, hend⟩ :=
    exists_cut_amid hbefore hafter hstart
  rw [snippet_eq (hat.trans ht.symm) hao, snippet_eq hct hco, hlocation, hline, hend]
  simp only [Nat.add_le_add_iff_left, Nat.add_sub_add_left]

end

theorem Snippet.toString_eq (snippet : Snippet) :
    toString snippet =
      s!"{snippet.name}:{snippet.location.line}" ++
        s!":{snippet.location.column}\n{snippet.line}\n{snippet.underline}" := by
  simp only [toString, String.append_assoc]

/-- What is shown of a stretch does not depend on the lines around its text, but for the number of
those before it. -/
theorem Span.describe_amid {inner outer : Source} {before after : List Char}
    (hbefore : before = [] ∨ before.getLast? = some '\n')
    (hafter : after = [] ∨ after.head? = some '\n')
    (ht : outer.text = before ++ inner.text ++ after) {start stop : Nat}
    (hstart : start ≤ inner.length) (hstop : stop ≤ inner.length) :
    let span : Span := ⟨inner, start, stop⟩
    let moved : Span := ⟨outer, before.length + start, before.length + stop⟩
    let passed := before.count '\n'
    moved.lineColumns.1 = ⟨span.lineColumns.1.line + passed, span.lineColumns.1.column⟩ ∧
      moved.lineColumns.2 = ⟨span.lineColumns.2.line + passed, span.lineColumns.2.column⟩ ∧
      moved.snippet.location =
        ⟨span.snippet.location.line + passed, span.snippet.location.column⟩ ∧
      moved.snippet.line = span.snippet.line ∧
      moved.snippet.caretCount = span.snippet.caretCount ∧
      (outer.name = inner.name →
        let shown :=
          s!":{span.snippet.location.column}\n{span.snippet.line}\n{span.snippet.underline}"
        span.describe = s!"{inner.name}:{span.snippet.location.line}" ++ shown ∧
          moved.describe = s!"{inner.name}:{span.snippet.location.line + passed}" ++ shown) := by
  intro span moved passed
  have hcolumns := lineColumns_amid hbefore hafter ht hstart hstop
  have hsnippet : moved.snippet =
      ⟨outer.name, ⟨span.snippet.location.line + passed, span.snippet.location.column⟩,
        span.snippet.line, span.snippet.caretCount⟩ :=
    snippet_amid hbefore hafter ht hstart stop
  rw [hsnippet, show moved.lineColumns = _ from hcolumns]
  refine ⟨rfl, rfl, rfl, rfl, rfl, ?_⟩
  intro hname shown
  constructor
  · exact span.snippet.toString_eq
  · rw [describe, hsnippet, hname, Snippet.toString_eq]
    rfl

/-- The second line of a text, shown alone and shown between two other lines. -/
theorem Span.describe_amid_between :
    let inner : Source := ⟨⟨0⟩, "f", ['a', '\n', 'b', 'c']⟩
    let outer : Source := ⟨⟨1⟩, "f", ['x', '\n'] ++ inner.text ++ ['\n', 'y']⟩
    (['x', '\n'] : List Char).getLast? = some '\n' ∧ (['\n', 'y'] : List Char).head? = some '\n' ∧
      3 ≤ inner.length ∧ 4 ≤ inner.length ∧
      (Span.mk inner 3 4).describe = "f:2" ++ ":2\nbc\n ^" ∧
      (Span.mk outer 5 6).describe = "f:3" ++ ":2\nbc\n ^" := by
  intro inner outer
  have hbefore : (['x', '\n'] : List Char).getLast? = some '\n' := by decide
  have hafter : (['\n', 'y'] : List Char).head? = some '\n' := by decide
  have hstart : 3 ≤ inner.length := by decide
  have hstop : 4 ≤ inner.length := by decide
  have ht : outer.text = ['x', '\n'] ++ inner.text ++ ['\n', 'y'] := rfl
  obtain ⟨_, _, _, _, _, hshown⟩ := describe_amid (.inr hbefore) (.inr hafter) ht hstart hstop
  obtain ⟨hspan, hmoved⟩ := hshown rfl
  exact ⟨hbefore, hafter, hstart, hstop, hspan.trans (by decide +kernel),
    hmoved.trans (by decide +kernel)⟩

end TextLocation
