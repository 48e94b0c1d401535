import TextLocation.Proofs.Line.Agreement
import TextLocation.Proofs.Line.Order
import TextLocation.Proofs.Line.Written

namespace TextLocation

theorem LineColumn.count_written (name : String) (location : LineColumn) :
    (s!"{name}:{location}").toList.count ':' = name.toList.count ':' + 2 := by
  have hline : (toString location.line).toList.count ':' = 0 :=
    List.count_eq_zero.2 (colon_notMem_toString _)
  have hcolumn : (toString location.column).toList.count ':' = 0 :=
    List.count_eq_zero.2 (colon_notMem_toString _)
  rw [toList_written, List.count_append, List.count_append, List.count_cons_self,
    List.count_cons_self, hline, hcolumn]

namespace Position

variable {p q : Position}

theorem toString_eq_iff :
    toString p = toString q ↔ p.source.name = q.source.name ∧ p.lineColumn = q.lineColumn :=
  LineColumn.written_eq_iff

theorem toString_eq_iff_beq (hs : p.source = q.source) (hp : p.InBounds) (hq : q.InBounds) :
    toString p = toString q ↔ (p == q) = true := by
  rw [toString_eq_iff, beq_iff_lineColumn hs hp hq]
  exact and_iff_right (congrArg Source.name hs)

end Position

namespace Span

variable {a b : Span}

/-- The stop of a span is written as a place after a name, which here is the start. -/
theorem toString_eq_iff_ends :
    toString a = toString b ↔
      toString a.startPosition = toString b.startPosition ∧
        a.stopPosition.lineColumn = b.stopPosition.lineColumn := by
  rw [a.toString_eq, b.toString_eq]
  exact LineColumn.written_eq_iff

theorem toString_eq_iff :
    toString a = toString b ↔
      a.source.name = b.source.name ∧ a.lineColumns = b.lineColumns := by
  rw [toString_eq_iff_ends, Position.toString_eq_iff, a.lineColumns_eq, b.lineColumns_eq,
    Prod.mk.injEq, and_assoc]
  rfl

theorem beq_iff_ends (hs : a.source = b.source) :
    (a == b) = true ↔
      (a.startPosition == b.startPosition) = true ∧ (a.stopPosition == b.stopPosition) = true := by
  have hid : a.source.id = b.source.id := congrArg Source.id hs
  rw [beq_iff, Position.beq_iff, Position.beq_iff]
  simp only [startPosition, stopPosition, hid, true_and]

theorem toString_eq_iff_beq (hs : a.source = b.source) (ha : a.InBounds) (hb : b.InBounds) :
    toString a = toString b ↔ (a == b) = true := by
  have hstart : toString a.startPosition = toString b.startPosition ↔
      (a.startPosition == b.startPosition) = true :=
    Position.toString_eq_iff_beq hs ha.1 hb.1
  have hstop : (a.stopPosition == b.stopPosition) = true ↔
      a.stopPosition.lineColumn = b.stopPosition.lineColumn :=
    Position.beq_iff_lineColumn hs ha.2 hb.2
  rw [toString_eq_iff_ends, beq_iff_ends hs, hstart, hstop]

theorem count_toString (a : Span) :
    (toString a).toList.count ':' = a.source.name.toList.count ':' + 4 := by
  have hstart : (toString a.startPosition).toList.count ':' = a.source.name.toList.count ':' + 2 :=
    LineColumn.count_written _ _
  have hstop : (toString a.startPosition ++ ":" ++ toString a.stopPosition.lineColumn).toList.count
      ':' = (toString a.startPosition).toList.count ':' + 2 :=
    LineColumn.count_written _ _
  rw [a.toString_eq, hstop, hstart]

end Span

/-- A span is written with two more colons than a position of a source of the same name. -/
theorem Position.toString_ne_span {p : Position} {a : Span}
    (hname : p.source.name = a.source.name) : toString p ≠ toString a := by
  intro he
  have hp : (toString p).toList.count ':' = p.source.name.toList.count ':' + 2 :=
    LineColumn.count_written _ _
  rw [he, a.count_toString, hname] at hp
  omega

/-- What is written on one line of a position or a span gives back its name and its places, and
within one source the position or span itself. -/
theorem compact_lossless (p q : Position) (a b : Span) :
    (toString p = toString q ↔
      p.source.name = q.source.name ∧ p.lineColumn = q.lineColumn) ∧
      (toString a = toString b ↔
        a.source.name = b.source.name ∧ a.lineColumns = b.lineColumns) ∧
      (p.source = q.source → p.InBounds → q.InBounds →
        (toString p = toString q ↔ (p == q) = true)) ∧
      (a.source = b.source → a.InBounds → b.InBounds →
        (toString a = toString b ↔ (a == b) = true)) ∧
      (p.source.name = a.source.name → toString p ≠ toString a) :=
  ⟨Position.toString_eq_iff, Span.toString_eq_iff, Position.toString_eq_iff_beq,
    Span.toString_eq_iff_beq, Position.toString_ne_span⟩

/-- A name that ends like a place, so that a position is written like a span of another source. -/
theorem compact_lossless_name :
    let source : Source := ⟨⟨0⟩, "f:1:1", ['a', '\n', 'b']⟩
    let other : Source := ⟨⟨1⟩, "f", []⟩
    let p : Position := ⟨source, 2⟩
    let q : Position := ⟨source, 0⟩
    let reversed : Span := ⟨source, 2, 0⟩
    let ordered : Span := ⟨source, 0, 2⟩
    p.InBounds ∧ q.InBounds ∧ reversed.InBounds ∧ ordered.InBounds ∧
      toString q = toString (Span.mk other 0 0) ∧
      toString p ≠ toString q ∧ toString reversed ≠ toString ordered ∧
      toString p ≠ toString reversed := by
  intro source other p q reversed ordered
  have hp : p.InBounds := by decide
  have hq : q.InBounds := by decide
  have hr : reversed.InBounds := by decide
  have ho : ordered.InBounds := by decide
  obtain ⟨_, _, hpositions, hspans, hkinds⟩ := compact_lossless p q reversed ordered
  have hne : (p == q) ≠ true := by decide
  have hne' : (reversed == ordered) ≠ true := by decide
  exact ⟨hp, hq, hr, ho, by decide +kernel, fun he => hne ((hpositions rfl hp hq).1 he),
    fun he => hne' ((hspans rfl hr ho).1 he), hkinds rfl⟩

end TextLocation
