import TextLocation.Proofs.Bounds
import TextLocation.Proofs.Line.Lookup
import TextLocation.Snippet

namespace TextLocation

/-- The snippet of a span, read off a cut where the span starts. -/
theorem Span.snippet_eq {span : Span} {cut : LineCut} (ht : cut.text = span.source.text)
    (ho : cut.offset = span.start) :
    span.snippet =
      { name := span.source.name
        location := cut.location
        line := ⟨cut.line⟩
        caretCount :=
          if span.stop ≤ cut.lineEnd then max (span.stop - span.start) 1 else 1 } := by
  have hline : (cut.text.drop (unlines cut.front).length).take
      (cut.lineEnd - (unlines cut.front).length) = cut.line := by
    simp [LineCut.text, LineCut.lineEnd]
  simp only [Span.snippet, Snippet.ofSpan, ← ht, ← ho, LineCut.lineBoundsAt_offset, hline]

theorem LineCut.text_offset (cut : LineCut) :
    cut.text[cut.offset]? = (cut.right ++ newLines cut.back).head? := by
  rw [← cut.drop_offset, List.head?_drop]

/-- What is to the right of a cut begins with the character there, unless this is a newline. -/
theorem LineCut.head?_right (cut : LineCut) {c : Char} (h : cut.text[cut.offset]? = some c)
    (hc : c ≠ '\n') : cut.right.head? = some c := by
  rw [text_offset] at h
  cases hr : cut.right with
  | nil =>
    rw [hr] at h
    cases hb : cut.back with
    | nil => simp [hb] at h
    | cons line back =>
      rw [hb, newLines_cons] at h
      exact absurd (Option.some.inj h).symm hc
  | cons d right =>
    rw [hr] at h
    exact h

theorem LineCut.right_eq_nil (cut : LineCut)
    (h : cut.text[cut.offset]? = none ∨ cut.text[cut.offset]? = some '\n') : cut.right = [] := by
  rw [text_offset] at h
  cases hr : cut.right with
  | nil => rfl
  | cons d right =>
    have hd : d ≠ '\n' := by
      rintro rfl
      exact cut.right_newline (by simp [hr])
    rw [hr] at h
    rcases h with h | h
    · cases h
    · exact absurd (Option.some.inj h) hd

theorem Span.snippet_lines {span : Span} (h : span.InBounds) :
    (linesOf span.source.text)[span.snippet.location.line - 1]? =
      some span.snippet.line.chars := by
  obtain ⟨cut, ht, ho⟩ := exists_cut h.1
  rw [snippet_eq ht ho, ← ht, cut.linesOf_text]
  exact cut.lines_line

theorem Span.snippet_newline {span : Span} (h : span.InBounds) :
    '\n' ∉ span.snippet.line.chars :=
  newline_of_mem_linesOf (List.mem_of_getElem? (snippet_lines h))

theorem Span.snippet_line_pos {span : Span} (h : span.InBounds) :
    1 ≤ span.snippet.location.line := by
  obtain ⟨cut, ht, ho⟩ := exists_cut h.1
  rw [snippet_eq ht ho]
  exact Nat.le_add_left 1 _

theorem Span.snippet_column {span : Span} (h : span.InBounds) :
    1 ≤ span.snippet.location.column ∧
      span.snippet.location.column ≤ span.snippet.line.length + 1 := by
  obtain ⟨cut, ht, ho⟩ := exists_cut h.1
  rw [snippet_eq ht ho]
  simp [LineCut.location, LineCut.line, Run.length]

theorem Span.snippet_char {span : Span} (h : span.InBounds) {c : Char}
    (hc : span.source.text[span.start]? = some c) (hn : c ≠ '\n') :
    span.snippet.line.chars[span.snippet.location.column - 1]? = some c := by
  obtain ⟨cut, ht, ho⟩ := exists_cut h.1
  rw [← ht, ← ho] at hc
  have hr := cut.head?_right hc hn
  rw [snippet_eq ht ho]
  change (cut.left ++ cut.right)[cut.left.length]? = some c
  rw [List.getElem?_append_right (Nat.le_refl _), Nat.sub_self, ← List.head?_eq_getElem?, hr]

theorem Span.snippet_column_end {span : Span} (h : span.InBounds)
    (hc : span.start = span.source.length ∨ span.source.text[span.start]? = some '\n') :
    span.snippet.location.column = span.snippet.line.length + 1 := by
  obtain ⟨cut, ht, ho⟩ := exists_cut h.1
  have hr : cut.right = [] := by
    apply cut.right_eq_nil
    rw [ht, ho]
    exact hc.imp_left fun he => List.getElem?_eq_none (Nat.le_of_eq he.symm)
  rw [snippet_eq ht ho]
  simp [LineCut.location, LineCut.line, Run.length, hr]

theorem Span.map_snippet_line {lines : List (List Char)} {spans : List Span}
    (h : ∀ span ∈ spans,
      lines[span.snippet.location.line - 1]? = some span.snippet.line.chars)
    (hn : spans.map (·.snippet.location.line) = List.range' 1 lines.length) :
    spans.map (·.snippet.line.chars) = lines := by
  have hlen : spans.length = lines.length := by
    simpa using congrArg List.length hn
  apply List.ext_getElem?
  intro i
  cases hi : spans[i]? with
  | none =>
    have hle := List.getElem?_eq_none_iff.1 hi
    rw [List.getElem?_map, hi, List.getElem?_eq_none (by omega)]
    rfl
  | some span =>
    obtain ⟨hlt, hs⟩ := List.getElem?_eq_some_iff.1 hi
    have hl : span.snippet.location.line = 1 + i := by
      have hg := congrArg (·[i]?) hn
      simpa [← hlen, hlt, hs] using hg
    have hline := h span (List.mem_of_getElem? hi)
    rw [hl, Nat.add_sub_cancel_left] at hline
    rw [List.getElem?_map, hi, hline]
    rfl

/-- A snippet shows the line of the text that its span starts on, with the column of the start in
it. The snippets of a text show all its lines and nothing else. -/
theorem Span.snippet_shows_line (source : Source) :
    let lines := linesOf source.text
    lines ≠ [] ∧
      (∀ span : Span, span.source = source → span.InBounds →
        let snippet := span.snippet
        1 ≤ snippet.location.line ∧ snippet.location.line ≤ lines.length ∧
          lines[snippet.location.line - 1]? = some snippet.line.chars ∧
          '\n' ∉ snippet.line.chars ∧
          1 ≤ snippet.location.column ∧ snippet.location.column ≤ snippet.line.length + 1 ∧
          (∀ c, source.text[span.start]? = some c → c ≠ '\n' →
            snippet.line.chars[snippet.location.column - 1]? = some c) ∧
          (span.start = source.length ∨ source.text[span.start]? = some '\n' →
            snippet.location.column = snippet.line.length + 1)) ∧
      (∀ a b : Span, a.source = source → b.source = source → a.InBounds → b.InBounds →
        a.snippet.location.line = b.snippet.location.line → a.snippet.line = b.snippet.line) ∧
      (∀ number, 1 ≤ number → number ≤ lines.length →
        ∃ start ≤ source.length, ∀ stop,
          (Span.mk source start stop).snippet.location.line = number) ∧
      (∀ spans : List Span, (∀ span ∈ spans, span.source = source ∧ span.InBounds) →
        spans.map (·.snippet.location.line) = List.range' 1 lines.length →
        ['\n'].intercalate (spans.map (·.snippet.line.chars)) = source.text) := by
  intro lines
  refine ⟨linesOf_ne_nil source.text, ?_, ?_, ?_, ?_⟩
  · rintro span rfl h
    have hline := snippet_lines h
    have hpos := snippet_line_pos h
    obtain ⟨hlt, _⟩ := List.getElem?_eq_some_iff.1 hline
    have hle : span.snippet.location.line ≤ (linesOf span.source.text).length := by omega
    obtain ⟨hcolumn, hcolumn'⟩ := snippet_column h
    exact ⟨hpos, hle, hline, newline_of_mem_linesOf (List.mem_of_getElem? hline), hcolumn,
      hcolumn', fun c hc hn => snippet_char h hc hn, snippet_column_end h⟩
  · rintro a b rfl hs ha hb hl
    have hline := snippet_lines hb
    rw [hs, ← hl, snippet_lines ha] at hline
    exact congrArg Run.mk (Option.some.inj hline)
  · intro number hpos hle
    have hi : lines[number - 1]? = some lines[number - 1] := List.getElem?_eq_getElem (by omega)
    obtain ⟨cut, ht, hl⟩ := exists_cut_of_line hi (Nat.zero_le _)
    refine ⟨cut.offset, ?_, ?_⟩
    · rw [Source.length, ← ht]
      exact cut.offset_le
    · intro stop
      rw [snippet_eq ht rfl, hl]
      exact Nat.sub_add_cancel hpos
  · intro spans hspans hn
    have hmap : spans.map (·.snippet.line.chars) = lines := by
      apply map_snippet_line _ hn
      intro span hs
      obtain ⟨he, h⟩ := hspans span hs
      have hline := snippet_lines h
      rwa [he] at hline
    rw [hmap, intercalate_linesOf]

end TextLocation
