import TextLocation.Proofs.Ownership

namespace TextLocation

def LocationError.halt (error : LocationError) : Halt := ⟨error.message⟩

/-- The state that a run comes to, unless it fails. -/
def reached {ε σ α : Type} : EStateM.Result ε σ α → Except ε σ
  | .ok _ state => .ok state
  | .error error _ => .error error

/-- What comes of joining operands, told by the identities of their sources. All must have that of
the receiver; the first that has another is named in the refusal, to the right of the receiver. -/
structure Joins {α ε : Type} (refusal : LocationError → ε) (receiver : SourceId)
    (operands : List SourceId) (joined : α) (result : Except ε α) : Prop where
  eq_ok_iff : ∀ a, result = .ok a ↔ (∀ operand ∈ operands, operand = receiver) ∧ joined = a
  eq_error_iff : ∀ e, result = .error e ↔
    ∃ front other back, operands = front ++ other :: back ∧ (∀ own ∈ front, own = receiver) ∧
      other ≠ receiver ∧ refusal (.sourceMismatch receiver other) = e

section Joins

variable {α ε : Type} {refusal : LocationError → ε} {receiver operand : SourceId}
  {operands : List SourceId} {joined : α} {result : Except ε α}

theorem joins_nil : Joins refusal receiver [] joined (.ok joined) where
  eq_ok_iff a := by simp
  eq_error_iff e := by simp

theorem Joins.cons_own (h : Joins refusal receiver operands joined result)
    (hown : operand = receiver) : Joins refusal receiver (operand :: operands) joined result where
  eq_ok_iff a := by
    rw [h.eq_ok_iff, List.forall_mem_cons, and_iff_right hown]
  eq_error_iff e := by
    rw [h.eq_error_iff]
    constructor
    · rintro ⟨front, other, back, rfl, hfront, hother, he⟩
      exact ⟨operand :: front, other, back, rfl, List.forall_mem_cons.2 ⟨hown, hfront⟩, hother, he⟩
    · rintro ⟨front, other, back, heq, hfront, hother, he⟩
      cases front with
      | nil =>
        obtain ⟨rfl, _⟩ := List.cons.inj heq
        exact absurd hown hother
      | cons first front =>
        obtain ⟨_, htail⟩ := List.cons.inj heq
        exact ⟨front, other, back, htail, (List.forall_mem_cons.1 hfront).2, hother, he⟩

theorem joins_cons_foreign (h : operand ≠ receiver) :
    Joins refusal receiver (operand :: operands) joined
      (.error (refusal (.sourceMismatch receiver operand))) where
  eq_ok_iff a := by
    rw [List.forall_mem_cons]
    constructor
    · intro he
      cases he
    · exact fun he => absurd he.1.1 h
  eq_error_iff e := by
    rw [Except.error.injEq]
    constructor
    · exact fun he => ⟨[], operand, operands, rfl, by simp, h, he⟩
    · rintro ⟨front, other, back, heq, hfront, _, he⟩
      cases front with
      | nil =>
        obtain ⟨rfl, _⟩ := List.cons.inj heq
        exact he
      | cons first front =>
        obtain ⟨rfl, _⟩ := List.cons.inj heq
        exact absurd (List.forall_mem_cons.1 hfront).1 h

theorem orHalt_eq_error_iff {result : Except LocationError α} {halt : Halt} :
    orHalt result = .error halt ↔ ∃ error, result = .error error ∧ error.halt = halt := by
  cases result with
  | ok a => simp
  | error error => simp [LocationError.halt]

/-- Halting changes nothing but that the refusal is told by its message. -/
theorem Joins.orHalt {result : Except LocationError α}
    (h : Joins id receiver operands joined result) :
    Joins LocationError.halt receiver operands joined (orHalt result) where
  eq_ok_iff a := by rw [orHalt_eq_ok_iff, h.eq_ok_iff]
  eq_error_iff e := by
    rw [orHalt_eq_error_iff]
    constructor
    · rintro ⟨error, herror, he⟩
      obtain ⟨front, other, back, heq, hfront, hother, rfl⟩ := (h.eq_error_iff error).1 herror
      exact ⟨front, other, back, heq, hfront, hother, he⟩
    · rintro ⟨front, other, back, heq, hfront, hother, he⟩
      exact ⟨_, (h.eq_error_iff _).2 ⟨front, other, back, heq, hfront, hother, rfl⟩, he⟩

end Joins

variable {α : Type} {source : Source} {p q : Position} {operands : List SourceId} {joined : α}
  {result : Except LocationError α}

theorem joins_requireOwn
    (h : p.source.id = source.id → Joins id source.id operands joined result) :
    Joins id source.id (p.source.id :: operands) joined
      (source.requireOwn p >>= fun _ => result) := by
  rw [Source.requireOwn]
  split
  · next hown => exact (h hown).cons_own hown
  · next hforeign => exact joins_cons_foreign hforeign

theorem Position.joins_spanTo (p q : Position) :
    Joins id p.source.id [q.source.id] ⟨p.source, p.offset, q.offset⟩ (p.spanTo q) :=
  joins_requireOwn fun _ => joins_nil

theorem Span.joins_spanTo (a b : Span) :
    Joins id a.source.id [b.source.id] ⟨a.source, a.start, b.stop⟩ (a.spanTo b) :=
  joins_requireOwn (p := b.stopPosition) fun _ => joins_nil

/-- The start is asked for first, and then asks for the stop in place of the receiver. -/
theorem joins_span (hs : p.source.id = source.id → p.source = source) :
    Joins id source.id [p.source.id, q.source.id] ⟨source, p.offset, q.offset⟩
      (source.span p q) := by
  apply joins_requireOwn
  intro hown
  obtain rfl := hs hown
  exact p.joins_spanTo q

namespace Scanner

variable {scanner : Scanner}

theorem joins_spanFrom (hs : p.source.id = scanner.source.id → p.source = scanner.source) :
    Joins LocationError.halt scanner.source.id [p.source.id]
      ⟨scanner.source, p.offset, scanner.offset⟩ (scanner.spanFrom p) := by
  apply Joins.orHalt
  apply joins_requireOwn
  intro hown
  have hspan : p.spanTo scanner.position = .ok ⟨scanner.source, p.offset, scanner.offset⟩ := by
    rw [Position.spanTo_eq_ok_iff, ← hs hown]
    exact ⟨hown.symm, rfl⟩
  rw [hspan]
  exact joins_nil

theorem joins_moveTo (scanner : Scanner) (p : Position) :
    Joins LocationError.halt scanner.source.id [p.source.id] ⟨scanner.source, p.offset⟩
      (reached ((moveTo p).run scanner)) := by
  have hmove : reached ((moveTo p).run scanner) =
      orHalt (scanner.source.requireOwn p >>= fun _ => .ok ⟨scanner.source, p.offset⟩) := by
    rw [run_moveTo]
    cases scanner.source.requireOwn p with
    | ok _ => rfl
    | error error => rfl
  rw [hmove]
  exact (joins_requireOwn fun _ => joins_nil).orHalt

end Scanner

end TextLocation
