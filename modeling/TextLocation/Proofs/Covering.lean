import TextLocation.Proofs.Bounds
import TextLocation.Proofs.Ordering

namespace TextLocation

theorem countP_range_between (start stop bound : Nat) :
    (List.range bound).countP (fun offset => start ≤ offset ∧ offset < stop) =
      min stop bound - start := by
  induction bound with
  | zero => simp
  | succ bound ih =>
    rw [List.range_succ, List.countP_append, ih, List.countP_singleton]
    simp only [decide_eq_true_eq]
    split <;> omega

/-- The positions of a source from its start to its end. -/
def Source.positions (source : Source) : List Position :=
  (List.range (source.length + 1)).map (Position.mk source)

theorem Source.map_position (source : Source) :
    (List.range (source.length + 1)).map source.position = source.positions.map .ok := by
  rw [positions, List.map_map, List.map_inj_left]
  intro offset h
  exact if_pos (Nat.le_of_lt_succ (List.mem_range.1 h))

namespace Span

variable {a b c span joined : Span} {p : Position}

/-- The start is not behind the stop. -/
def Forward (span : Span) : Prop := span.start ≤ span.stop

instance (span : Span) : Decidable span.Forward :=
  inferInstanceAs (Decidable (_ ≤ _))

theorem contains_iff :
    span.contains p = true ↔
      p.source.id = span.source.id ∧ span.start ≤ p.offset ∧ p.offset < span.stop :=
  decide_eq_true_iff

theorem contains_iff_between :
    span.contains p = true ↔ span.startPosition ≤ p ∧ p < span.stopPosition := by
  rw [contains_iff, Position.le_iff, Position.lt_iff]
  constructor
  · rintro ⟨hid, hstart, hstop⟩
    exact ⟨⟨hid.symm, hstart⟩, hid, hstop⟩
  · rintro ⟨⟨_, hstart⟩, hid, hstop⟩
    exact ⟨hid, hstart, hstop⟩

theorem contains_foreign (h : p.source.id ≠ span.source.id) : span.contains p = false := by
  rw [Bool.eq_false_iff]
  exact fun hc => h (contains_iff.1 hc).1

/-- As many positions are covered as there are characters between the ends. -/
theorem countP_contains (h : span.InBounds) :
    span.source.positions.countP span.contains = span.length := by
  have hcovered : (span.contains ∘ Position.mk span.source) =
      fun offset => decide (span.start ≤ offset ∧ offset < span.stop) := by
    funext offset
    simp [contains]
  have hstop : min span.stop (span.source.length + 1) = span.stop :=
    Nat.min_eq_left (Nat.le_succ_of_le h.2)
  rw [Source.positions, List.countP_map, hcovered, countP_range_between, hstop, length]

theorem isEmpty_iff : span.isEmpty = true ↔ span.length = 0 := beq_iff_eq

theorem isEmpty_iff_contains (h : span.InBounds) :
    span.isEmpty = true ↔ ∀ p : Position, p.InBounds → span.contains p = false := by
  rw [isEmpty_iff, length, Nat.sub_eq_zero_iff_le]
  constructor
  · intro hle p _
    rw [Bool.eq_false_iff]
    intro hc
    obtain ⟨_, hstart, hstop⟩ := contains_iff.1 hc
    omega
  · intro hnone
    apply Nat.le_of_not_lt
    intro hlt
    have hstart : span.contains span.startPosition = true :=
      contains_iff.2 ⟨rfl, Nat.le_refl _, hlt⟩
    exact Bool.eq_false_iff.1 (hnone span.startPosition h.1) hstart

theorem length_of_slice (h : span.InBounds) {run : Run} (hslice : span.slice = .ok run) :
    run.length = span.length := by
  rcases Nat.lt_or_ge span.stop span.start with hlt | hle
  · obtain ⟨error, he⟩ := (slice_eq_error_iff h).2 hlt
    rw [he] at hslice
    cases hslice
  · rw [slice_eq_ok h hle] at hslice
    cases hslice
    rw [Run.length, List.length_take, List.length_drop]
    exact Nat.min_eq_left (Nat.sub_le_sub_right h.2 _)

theorem length_of_slice_refused (h : span.InBounds) {error : LocationError}
    (hslice : span.slice = .error error) : span.length = 0 :=
  Nat.sub_eq_zero_of_le (Nat.le_of_lt ((slice_eq_error_iff h).1 ⟨error, hslice⟩))

theorem spanToOrHalt_own (h : b.source.id = a.source.id) :
    a.spanToOrHalt b = .ok ⟨a.source, a.start, b.stop⟩ := by
  rw [spanToOrHalt, orHalt_eq_ok_iff, spanTo_eq_ok_iff]
  exact ⟨h, rfl⟩

/-- Of three spans joined in a row the one in the middle leaves no trace, whichever two are joined
first. -/
theorem spanToOrHalt_assoc (hb : b.source.id = a.source.id) (hc : c.source.id = a.source.id) :
    (do (← a.spanToOrHalt b).spanToOrHalt c) = a.spanToOrHalt c ∧
      (do a.spanToOrHalt (← b.spanToOrHalt c)) = a.spanToOrHalt c := by
  rw [spanToOrHalt_own hb, spanToOrHalt_own (hc.trans hb.symm), spanToOrHalt_own hc]
  exact ⟨spanToOrHalt_own hc, spanToOrHalt_own hb⟩

/-- A span that both starts and stops no later than another. -/
structure Precedes (a b : Span) : Prop where
  start_le : a.startPosition ≤ b.startPosition
  stop_le : a.stopPosition ≤ b.stopPosition

namespace Precedes

variable (h : a.Precedes b)

include h

theorem id_eq : b.source.id = a.source.id := (Position.le_iff.1 h.start_le).1.symm

theorem offset_le : a.start ≤ b.start ∧ a.stop ≤ b.stop :=
  ⟨(Position.le_iff.1 h.start_le).2, (Position.le_iff.1 h.stop_le).2⟩

theorem forward_join (hb : b.Forward) : (Span.mk a.source a.start b.stop).Forward :=
  Nat.le_trans h.offset_le.1 hb

theorem contains_join (hp : a.contains p = true ∨ b.contains p = true) :
    (Span.mk a.source a.start b.stop).contains p = true := by
  obtain ⟨hstart, hstop⟩ := h.offset_le
  rcases hp with hp | hp
  · obtain ⟨hid, hfrom, hto⟩ := contains_iff.1 hp
    exact contains_iff.2 ⟨hid, hfrom, Nat.lt_of_lt_of_le hto hstop⟩
  · obtain ⟨hid, hfrom, hto⟩ := contains_iff.1 hp
    exact contains_iff.2 ⟨hid.trans h.id_eq, Nat.le_trans hstart hfrom, hto⟩

theorem contains_of_join (hmeet : a.stop = b.start)
    (hp : (Span.mk a.source a.start b.stop).contains p = true) :
    a.contains p = true ∨ b.contains p = true := by
  obtain ⟨hid, hfrom, hto⟩ := contains_iff.1 hp
  rcases Nat.lt_or_ge p.offset a.stop with hlt | hle
  · exact .inl (contains_iff.2 ⟨hid, hfrom, hlt⟩)
  · exact .inr (contains_iff.2 ⟨hid.trans h.id_eq.symm, hmeet ▸ hle, hto⟩)

end Precedes

theorem length_join (ha : a.Forward) (hb : b.Forward) (hmeet : a.stop = b.start) :
    (Span.mk a.source a.start b.stop).length = a.length + b.length := by
  simp only [Forward, length] at ha hb ⊢
  omega

/-- What a span covers is what lies between its ends in the order of positions, its length counts
it, and joining spans covers what they cover. -/
structure CoversBetween (a b c : Span) : Prop where
  contains_iff : ∀ p : Position, a.contains p = true ↔ a.startPosition ≤ p ∧ p < a.stopPosition
  contains_foreign : ∀ p : Position, p.source.id ≠ a.source.id → a.contains p = false
  length_counts : ∃ positions : List Position,
    (List.range (a.source.length + 1)).map a.source.position = positions.map .ok ∧
      positions.countP a.contains = a.length
  isEmpty_iff : a.isEmpty = true ↔ ∀ p : Position, p.InBounds → a.contains p = false
  length_of_slice : ∀ run, a.slice = .ok run → run.length = a.length
  length_of_refused : ∀ error, a.slice = .error error → a.length = 0
  join_self : a.spanToOrHalt a = .ok a
  join_row : b.source.id = a.source.id → c.source.id = a.source.id →
    a.spanToOrHalt c = .ok ⟨a.source, a.start, c.stop⟩ ∧
      (do (← a.spanToOrHalt b).spanToOrHalt c) = a.spanToOrHalt c ∧
      (do a.spanToOrHalt (← b.spanToOrHalt c)) = a.spanToOrHalt c
  join_forward : a.Forward → b.Forward → a.Precedes b →
    ∃ joined, a.spanToOrHalt b = .ok joined ∧ joined.Forward ∧
      (∀ p, a.contains p = true ∨ b.contains p = true → joined.contains p = true) ∧
      ((a.stopPosition == b.startPosition) = true →
        (∀ p, joined.contains p = true → a.contains p = true ∨ b.contains p = true) ∧
          joined.length = a.length + b.length)

theorem covers_between (a b c : Span) (h : a.InBounds) : CoversBetween a b c where
  contains_iff _ := contains_iff_between
  contains_foreign _ := contains_foreign
  length_counts := ⟨_, a.source.map_position, countP_contains h⟩
  isEmpty_iff := isEmpty_iff_contains h
  length_of_slice _ := length_of_slice h
  length_of_refused _ := length_of_slice_refused h
  join_self := spanToOrHalt_own rfl
  join_row hb hc := ⟨spanToOrHalt_own hc, spanToOrHalt_assoc hb hc⟩
  join_forward ha hb hprec := by
    refine ⟨_, spanToOrHalt_own hprec.id_eq, hprec.forward_join hb,
      fun p => hprec.contains_join, ?_⟩
    intro hmeet
    obtain ⟨_, hoffset⟩ := Position.beq_iff.1 hmeet
    exact ⟨fun p => hprec.contains_of_join hoffset, length_join ha hb hoffset⟩

/-- Two words that meet, with a reversed span and a source of the same name beside them. -/
theorem covers_between_words :
    let source : Source := ⟨⟨0⟩, "f", ['a', 'b', 'c', 'd']⟩
    let other : Source := ⟨⟨1⟩, "f", ['a', 'b', 'c', 'd']⟩
    let a : Span := ⟨source, 0, 2⟩
    let b : Span := ⟨source, 2, 3⟩
    let reversed : Span := ⟨source, 3, 1⟩
    a.InBounds ∧ reversed.InBounds ∧ a.Forward ∧ b.Forward ∧ a.Precedes b ∧
      a.contains ⟨other, 1⟩ = false ∧
      (∀ p : Position, p.InBounds → reversed.contains p = false) ∧
      a.spanToOrHalt ⟨source, 4, 1⟩ = .ok ⟨source, 0, 1⟩ ∧
      ∃ joined, a.spanToOrHalt b = .ok joined ∧ joined.length = 3 := by
  intro source other a b reversed
  have h : a.InBounds := by decide
  have hr : reversed.InBounds := by decide
  have hprec : a.Precedes b := ⟨by decide, by decide⟩
  have hcovers := covers_between a b ⟨source, 4, 1⟩ h
  have hnothing := covers_between reversed a b hr
  obtain ⟨joined, hjoined, _, _, hmeet⟩ := hcovers.join_forward (by decide) (by decide) hprec
  exact ⟨h, hr, by decide, by decide, hprec, hcovers.contains_foreign ⟨other, 1⟩ (by decide),
    hnothing.isEmpty_iff.1 (by decide), (hcovers.join_row rfl rfl).1, joined, hjoined,
    (hmeet (by decide)).2⟩

end Span

end TextLocation
