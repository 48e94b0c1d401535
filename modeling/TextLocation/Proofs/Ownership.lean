import TextLocation.Scanner.Basic

namespace TextLocation

variable {source : Source} {p q : Position} {a b span : Span} {scanner moved : Scanner}

theorem orHalt_eq_ok_iff {α : Type} {result : Except LocationError α} {a : α} :
    orHalt result = .ok a ↔ result = .ok a := by
  cases result with
  | ok b => rw [orHalt_ok, Except.ok.injEq, Except.ok.injEq]
  | error error => simp only [orHalt_error, reduceCtorEq]

theorem Source.requireOwn_bind_eq_ok_iff {α : Type} {result : Except LocationError α} {a : α} :
    (source.requireOwn p >>= fun _ => result) = .ok a ↔
      p.source.id = source.id ∧ result = .ok a := by
  rw [requireOwn]
  split
  · next h => exact (and_iff_right h).symm
  · next h =>
    constructor
    · intro he
      cases he
    · exact fun he => absurd he.1 h

theorem Position.spanTo_eq_ok_iff :
    p.spanTo q = .ok span ↔
      q.source.id = p.source.id ∧ ⟨p.source, p.offset, q.offset⟩ = span := by
  rw [spanTo, Source.requireOwn_bind_eq_ok_iff]
  exact and_congr_right fun _ => Iff.of_eq (Except.ok.injEq _ _)

theorem Source.span_eq_ok_iff :
    source.span p q = .ok span ↔
      p.source.id = source.id ∧ q.source.id = p.source.id ∧
        ⟨p.source, p.offset, q.offset⟩ = span := by
  rw [Source.span, requireOwn_bind_eq_ok_iff, Position.spanTo_eq_ok_iff]

theorem Span.spanTo_eq_ok_iff :
    a.spanTo b = .ok span ↔
      b.source.id = a.source.id ∧ ⟨a.source, a.start, b.stop⟩ = span := by
  rw [spanTo, Source.requireOwn_bind_eq_ok_iff]
  exact and_congr_right fun _ => Iff.of_eq (Except.ok.injEq _ _)

namespace Scanner

theorem run_moveTo (scanner : Scanner) (p : Position) :
    (moveTo p).run scanner =
      match orHalt (scanner.source.requireOwn p) with
      | .ok _ => .ok () { scanner with offset := p.offset }
      | .error halt => .error halt scanner := by
  rw [moveTo, EStateM.run_bind, EStateM.run_get]
  dsimp only
  rw [EStateM.run_bind]
  cases orHalt (scanner.source.requireOwn p) with
  | ok _ => rfl
  | error halt => rfl

theorem run_moveTo_own (h : p.source.id = scanner.source.id) :
    (moveTo p).run scanner = .ok () { scanner with offset := p.offset } := by
  rw [run_moveTo, Source.requireOwn, if_pos h]
  rfl

/-- A position of another source is refused before anything is moved. -/
theorem run_moveTo_foreign (h : p.source.id ≠ scanner.source.id) :
    (moveTo p).run scanner =
      .error ⟨(LocationError.sourceMismatch scanner.source.id p.source.id).message⟩ scanner := by
  rw [run_moveTo, Source.requireOwn, if_neg h]
  rfl

theorem run_moveTo_eq_ok_iff :
    (moveTo p).run scanner = .ok () moved ↔
      p.source.id = scanner.source.id ∧ { scanner with offset := p.offset } = moved := by
  by_cases h : p.source.id = scanner.source.id
  · rw [run_moveTo_own h, and_iff_right h, EStateM.Result.ok.injEq, and_iff_right rfl]
  · rw [run_moveTo_foreign h]
    exact iff_of_false (fun he => nomatch he) fun he => h he.1

theorem eq_of_run_moveTo_eq_error {halt : Halt} (h : (moveTo p).run scanner = .error halt moved) :
    moved = scanner := by
  by_cases hid : p.source.id = scanner.source.id
  · rw [run_moveTo_own hid] at h
    cases h
  · rw [run_moveTo_foreign hid] at h
    cases h
    rfl

end Scanner

end TextLocation
