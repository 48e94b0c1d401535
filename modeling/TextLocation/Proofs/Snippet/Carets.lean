import TextLocation.Proofs.Snippet.Line

namespace TextLocation

/-- The characters of the line that the carets stand below. -/
def Snippet.underlined (snippet : Snippet) : Run :=
  ⟨(snippet.line.chars.drop (snippet.location.column - 1)).take snippet.caretCount⟩

/-- The span covers characters, and none of them is a newline. -/
def Span.OnOneLine (span : Span) : Prop :=
  span.start < span.stop ∧ ∃ run, span.slice = .ok run ∧ '\n' ∉ run.chars

theorem newline_mem_take {right : List Char} {back : List (List Char)} {n : Nat}
    (h : right.length < n) (hn : n ≤ right.length + (newLines back).length) :
    '\n' ∈ (right ++ newLines back).take n := by
  rw [List.take_append, List.take_of_length_le (by omega), List.mem_append]
  apply Or.inr
  cases back with
  | nil =>
    rw [newLines_nil, List.length_nil] at hn
    omega
  | cons line back =>
    obtain ⟨k, hk⟩ : ∃ k, n - right.length = k + 1 := ⟨n - right.length - 1, by omega⟩
    rw [newLines_cons, hk, List.take_succ_cons]
    exact List.mem_cons_self

section

variable {span : Span} {cut : LineCut} (ht : cut.text = span.source.text)
  (ho : cut.offset = span.start)

include ht ho

theorem Span.slice_eq_cut (h : span.InBounds) (hle : span.start ≤ span.stop) :
    span.slice = .ok ⟨(cut.right ++ newLines cut.back).take (span.stop - span.start)⟩ := by
  rw [slice_eq_ok h hle, ← ht, ← ho, LineCut.drop_offset]

/-- A stretch that does not go past the end of its first line lies to the right of its start. -/
theorem Span.slice_eq_right (h : span.InBounds) (hle : span.start ≤ span.stop)
    (hend : span.stop ≤ cut.lineEnd) :
    span.slice = .ok ⟨cut.right.take (span.stop - span.start)⟩ := by
  have he := cut.lineEnd_eq
  rw [slice_eq_cut ht ho h hle, List.take_append_of_le_length (by omega)]

theorem Span.onOneLine_iff (h : span.InBounds) :
    span.OnOneLine ↔ span.start < span.stop ∧ span.stop ≤ cut.lineEnd := by
  have he := cut.lineEnd_eq
  constructor
  · rintro ⟨hlt, run, hrun, hn⟩
    refine ⟨hlt, ?_⟩
    rw [slice_eq_cut ht ho h (Nat.le_of_lt hlt)] at hrun
    cases hrun
    apply Nat.le_of_not_lt
    intro hend
    apply hn
    apply newline_mem_take (by omega)
    have hstop : span.stop ≤ cut.text.length := by
      rw [ht]
      exact h.2
    rw [cut.length_text] at hstop
    omega
  · rintro ⟨hlt, hend⟩
    refine ⟨hlt, _, slice_eq_right ht ho h (Nat.le_of_lt hlt) hend, ?_⟩
    exact fun hn => cut.right_newline (List.mem_of_mem_take hn)

theorem Span.lineColumn_stop (hle : span.start ≤ span.stop) (hend : span.stop ≤ cut.lineEnd) :
    lineColumnAt span.source.text span.stop =
      ⟨cut.location.line, cut.location.column + (span.stop - span.start)⟩ := by
  have he := cut.lineEnd_eq
  have hn : span.stop - span.start ≤ cut.right.length := by omega
  have hstop : (cut.shift (span.stop - span.start)).offset = span.stop := by
    rw [cut.offset_shift hn]
    omega
  rw [← ht, ← cut.text_shift (span.stop - span.start), ← cut.location_shift hn,
    ← LineCut.lineColumnAt_offset, hstop]

omit ho in
theorem Span.stop_le_lineEnd (h : span.InBounds)
    (hl : cut.location.line = (lineColumnAt span.source.text span.stop).line) :
    span.stop ≤ cut.lineEnd := by
  obtain ⟨other, ht', ho'⟩ := exists_cut h.2
  rw [← ht', ← ho', LineCut.lineColumnAt_offset] at hl
  obtain ⟨hf, hline, _⟩ := LineCut.eq_of_line_eq (ht.trans ht'.symm) hl
  rw [← ho', LineCut.lineEnd, hf, hline]
  change other.offset ≤ other.lineEnd
  rw [other.lineEnd_eq]
  omega

end

/-- The carets underline the whole of a span that keeps to one line and the first place of any
other. The lines and columns of the two ends say the same. -/
theorem Span.snippet_carets (span : Span) (h : span.InBounds) :
    let snippet := span.snippet
    let (start, stop) := span.lineColumns
    (span.OnOneLine →
      snippet.caretCount = span.stop - span.start ∧
        snippet.location.column - 1 + snippet.caretCount ≤ snippet.line.length ∧
        span.slice = .ok snippet.underlined) ∧
      (¬ span.OnOneLine → snippet.caretCount = 1) ∧
      1 ≤ snippet.caretCount ∧
      snippet.location.column - 1 + snippet.caretCount ≤ snippet.line.length + 1 ∧
      snippet.caretCount =
        if span.start ≤ span.stop ∧ start.line = stop.line then
          max 1 (stop.column - start.column)
        else 1 := by
  obtain ⟨cut, ht, ho⟩ := exists_cut h.1
  have he := cut.lineEnd_eq
  have hone := onOneLine_iff ht ho h
  have hstart : lineColumnAt span.source.text span.start = cut.location := by
    rw [← ht, ← ho, cut.lineColumnAt_offset]
  have hcolumn : cut.location.column - 1 = cut.left.length := rfl
  have hline : cut.line.length = cut.left.length + cut.right.length := List.length_append
  rw [lineColumns, lineColumnsAt_eq, hstart, snippet_eq ht ho]
  simp only [hone, Run.length, hline, hcolumn, Snippet.underlined]
  refine ⟨?_, ?_, ?_, ?_, ?_⟩
  · rintro ⟨hlt, hend⟩
    rw [if_pos hend, slice_eq_right ht ho h (Nat.le_of_lt hlt) hend,
      Nat.max_eq_left (Nat.sub_pos_of_lt hlt)]
    refine ⟨rfl, by omega, ?_⟩
    rw [LineCut.line, List.drop_left]
  · intro hn
    split <;> omega
  · split <;> omega
  · split <;> omega
  · by_cases hend : span.stop ≤ cut.lineEnd
    · by_cases hle : span.start ≤ span.stop
      · rw [if_pos hend, lineColumn_stop ht ho hle hend, if_pos ⟨hle, rfl⟩]
        simp only
        omega
      · rw [if_pos hend, if_neg fun hc => hle hc.1]
        omega
    · rw [if_neg hend, if_neg fun hc => hend (stop_le_lineEnd ht h hc.2)]

/-- A span that keeps to the second line of a text. -/
theorem Span.snippet_carets_second_line :
    let span : Span := ⟨⟨⟨0⟩, "f", ['a', '\n', 'b', 'c', 'd', '\n']⟩, 3, 5⟩
    span.InBounds ∧ span.OnOneLine ∧ span.snippet.caretCount = 2 ∧
      span.slice = .ok span.snippet.underlined := by
  intro span
  have h : span.InBounds := by decide
  have hone : span.OnOneLine := ⟨by decide, ⟨['c', 'd']⟩, by decide, by decide⟩
  obtain ⟨hwhole, _⟩ := snippet_carets span h
  obtain ⟨hcount, _, hslice⟩ := hwhole hone
  exact ⟨h, hone, hcount, hslice⟩

end TextLocation
