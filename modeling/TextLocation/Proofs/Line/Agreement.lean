import TextLocation.Proofs.Line.Lookup
import TextLocation.Snippet

namespace TextLocation

theorem lineColumnAt_min (text : List Char) (offset : Nat) :
    lineColumnAt text (min offset text.length) = lineColumnAt text offset := by
  rw [lineColumnAt, ← List.take_eq_take_min, lineColumnAt]

theorem lineBoundsAt_min (text : List Char) (offset : Nat) :
    lineBoundsAt text (min offset text.length) = lineBoundsAt text offset := by
  rw [lineBoundsAt, ← List.take_eq_take_min, ← List.drop_eq_drop_min, lineBoundsAt]

namespace Span

variable (span : Span)

theorem lineColumns_eq :
    span.lineColumns = (span.startPosition.lineColumn, span.stopPosition.lineColumn) :=
  lineColumnsAt_eq span.source.text span.start span.stop

theorem toString_eq :
    toString span =
      toString span.startPosition ++ ":" ++ toString span.stopPosition.lineColumn := by
  change s!"{span.source.name}:{span.lineColumns.1}:{span.lineColumns.2}" = _
  rw [span.lineColumns_eq]
  rfl

end Span

/-- The walk to one offset, the walk to two and the search for the bounds of a line find the same
places, and take every offset past the end for the end. The forms of a span that show a place show
what the walk to that place finds. -/
theorem lineLookups_agree (text : List Char) (start stop : Nat) (span : Span) :
    lineColumnsAt text start stop = (lineColumnAt text start, lineColumnAt text stop) ∧
      (lineBoundsAt text start).location = lineColumnAt text start ∧
      (∀ past, text.length ≤ past →
        lineColumnAt text past = lineColumnAt text text.length ∧
          lineBoundsAt text past = lineBoundsAt text text.length ∧
          lineColumnsAt text past stop = lineColumnsAt text text.length stop ∧
          lineColumnsAt text start past = lineColumnsAt text start text.length) ∧
      span.lineColumns = (span.startPosition.lineColumn, span.stopPosition.lineColumn) ∧
      span.snippet.location = span.startPosition.lineColumn ∧
      toString span =
        toString span.startPosition ++ ":" ++ toString span.stopPosition.lineColumn := by
  refine ⟨lineColumnsAt_eq text start stop, rfl, ?_, span.lineColumns_eq, rfl, span.toString_eq⟩
  intro past hpast
  have hcolumn := lineColumnAt_min text past
  have hbounds := lineBoundsAt_min text past
  rw [Nat.min_eq_right hpast] at hcolumn hbounds
  refine ⟨hcolumn.symm, hbounds.symm, ?_, ?_⟩
  · rw [lineColumnsAt_eq, lineColumnsAt_eq, hcolumn]
  · rw [lineColumnsAt_eq, lineColumnsAt_eq, hcolumn]

end TextLocation
