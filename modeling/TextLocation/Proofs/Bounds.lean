import TextLocation.Proofs.Ownership
import TextLocation.Source.Library

namespace TextLocation

/-- No two sources of the library share an identity. -/
def Library.Distinct (library : Library) : Prop :=
  ∀ a ∈ library.sources, ∀ b ∈ library.sources, a.id = b.id → a = b

theorem Library.Numbered.distinct {library : Library} (h : library.Numbered)
    (hlen : library.sources.length ≤ SourceId.count) : library.Distinct := by
  intro a ha b hb hid
  obtain ⟨i, hi, hai⟩ := List.mem_iff_getElem.1 ha
  obtain ⟨j, hj, hbj⟩ := List.mem_iff_getElem.1 hb
  have hia := h i a (List.getElem?_eq_some_iff.2 ⟨hi, hai⟩)
  have hjb := h j b (List.getElem?_eq_some_iff.2 ⟨hj, hbj⟩)
  rw [hia, hjb, SourceId.mk.injEq, Nat.mod_eq_of_lt (by omega), Nat.mod_eq_of_lt (by omega)] at hid
  subst hid
  exact hai.symm.trans hbj

def Position.InBounds (p : Position) : Prop := p.offset ≤ p.source.length

/-- Both ends lie in the text, in either order. -/
def Span.InBounds (span : Span) : Prop :=
  span.start ≤ span.source.length ∧ span.stop ≤ span.source.length

def Scanner.InBounds (scanner : Scanner) : Prop := scanner.offset ≤ scanner.source.length

instance (p : Position) : Decidable p.InBounds :=
  inferInstanceAs (Decidable (_ ≤ _))

instance (span : Span) : Decidable span.InBounds :=
  inferInstanceAs (Decidable (_ ∧ _))

instance (scanner : Scanner) : Decidable scanner.InBounds :=
  inferInstanceAs (Decidable (_ ≤ _))

def Position.Within (library : Library) (p : Position) : Prop :=
  p.source ∈ library.sources ∧ p.InBounds

def Span.Within (library : Library) (span : Span) : Prop :=
  span.source ∈ library.sources ∧ span.InBounds

def Scanner.Within (library : Library) (scanner : Scanner) : Prop :=
  scanner.source ∈ library.sources ∧ scanner.InBounds

variable {library : Library} {source : Source} {p q : Position} {a b span : Span}
  {scanner : Scanner}

theorem Source.position_within (hs : source ∈ library.sources) {offset : Nat}
    (h : source.position offset = .ok p) : p.Within library := by
  simp only [Source.position] at h
  split at h
  · next hle =>
    cases h
    exact ⟨hs, hle⟩
  · cases h

/-- An offset of a source with the same identity is an offset of the source itself. -/
theorem Position.Within.offset_le (hp : p.Within library) (hd : library.Distinct)
    (hs : source ∈ library.sources) (hid : p.source.id = source.id) :
    p.offset ≤ source.length := by
  have he := hd _ hp.1 _ hs hid
  rw [← he]
  exact hp.2

theorem Position.Within.spanTo (hp : p.Within library) (hd : library.Distinct)
    (hq : q.Within library) (h : p.spanTo q = .ok span) : span.Within library := by
  obtain ⟨hid, rfl⟩ := Position.spanTo_eq_ok_iff.1 h
  exact ⟨hp.1, hp.2, hq.offset_le hd hp.1 hid⟩

theorem Source.span_within (hp : p.Within library) (hd : library.Distinct)
    (hq : q.Within library) (h : source.span p q = .ok span) : span.Within library := by
  obtain ⟨_, hid, rfl⟩ := Source.span_eq_ok_iff.1 h
  exact ⟨hp.1, hp.2, hq.offset_le hd hp.1 hid⟩

theorem Span.Within.start (h : span.Within library) : span.startPosition.Within library :=
  ⟨h.1, h.2.1⟩

theorem Span.Within.stop (h : span.Within library) : span.stopPosition.Within library :=
  ⟨h.1, h.2.2⟩

theorem Span.Within.spanTo (ha : a.Within library) (hd : library.Distinct)
    (hb : b.Within library) (h : a.spanTo b = .ok span) : span.Within library := by
  obtain ⟨hid, rfl⟩ := Span.spanTo_eq_ok_iff.1 h
  exact ⟨ha.1, ha.2.1, hb.stop.offset_le hd ha.1 hid⟩

theorem Source.scanner_within (hs : source ∈ library.sources) :
    source.scanner.Within library :=
  ⟨hs, Nat.zero_le _⟩

theorem Scanner.Within.position (h : scanner.Within library) :
    scanner.position.Within library :=
  h

theorem Scanner.Within.skip (h : scanner.Within library) : scanner.skip.Within library := by
  refine ⟨?_, ?_⟩
  · simp only [Scanner.skip]
    split <;> exact h.1
  · simp only [Scanner.skip]
    split
    · assumption
    · exact h.2

theorem Scanner.Within.skipN (h : scanner.Within library) (count : Nat) :
    (scanner.skipN count).Within library :=
  ⟨h.1, Nat.min_le_right _ _⟩

theorem Scanner.length_rest (scanner : Scanner) : scanner.rest.length = scanner.remaining :=
  List.length_drop

theorem Scanner.skip_of_lt (h : scanner.offset < scanner.source.length) :
    scanner.skip = ⟨scanner.source, scanner.offset + 1⟩ :=
  if_pos h

theorem Scanner.skip_of_le (h : scanner.source.length ≤ scanner.offset) :
    scanner.skip = scanner :=
  if_neg (Nat.not_lt.2 h)

theorem Scanner.skipN_eq {count : Nat}
    (h : scanner.offset + count ≤ scanner.source.length) :
    scanner.skipN count = ⟨scanner.source, scanner.offset + count⟩ := by
  rw [skipN, Nat.min_eq_left h]

theorem Scanner.InBounds.run_le (h : scanner.InBounds) {σ : Type} (test : Test σ) (state : σ) :
    scanner.offset + (test.run state scanner.rest).1 ≤ scanner.source.length := by
  have hle := test.run_le_length state scanner.rest
  rw [Scanner.length_rest, Scanner.remaining] at hle
  simp only [Scanner.InBounds] at h
  omega

theorem Scanner.Within.skipWhile (h : scanner.Within library) {σ : Type} (test : Test σ)
    (state : σ) :
    (scanner.skipWhile test state).scanner.Within library ∧
      (scanner.skipWhile test state).span.Within library :=
  ⟨⟨h.1, h.2.run_le test state⟩, ⟨h.1, h.2, h.2.run_le test state⟩⟩

theorem Scanner.Within.moveTo (h : scanner.Within library) (hd : library.Distinct)
    (hp : p.Within library) {moved : Scanner} (hm : (moveTo p).run scanner = .ok () moved) :
    moved.Within library := by
  obtain ⟨hid, rfl⟩ := Scanner.run_moveTo_eq_ok_iff.1 hm
  exact ⟨h.1, hp.offset_le hd h.1 hid⟩

theorem Scanner.Within.charSpan (h : scanner.Within library) :
    scanner.charSpan.Within library := by
  refine ⟨h.1, h.2, ?_⟩
  have hle : scanner.offset ≤ scanner.source.length := h.2
  simp only [Scanner.charSpan, Scanner.isEnd, beq_iff_eq]
  split <;> omega

theorem Scanner.offset_add_remaining (h : scanner.InBounds) :
    scanner.offset + scanner.remaining = scanner.source.length :=
  Nat.add_sub_cancel' h

theorem Scanner.isEnd_iff (h : scanner.InBounds) :
    scanner.isEnd = true ↔ scanner.remaining = 0 := by
  have he := offset_add_remaining h
  simp only [isEnd, beq_iff_eq]
  omega

theorem Scanner.remaining_eq_zero_iff (scanner : Scanner) :
    scanner.remaining = 0 ↔ scanner.peek = none := by
  simp only [remaining, peek, List.getElem?_eq_none_iff, Source.length, Nat.sub_eq_zero_iff_le]

theorem Span.slice_eq_ok (h : span.InBounds) (hle : span.start ≤ span.stop) :
    span.slice = .ok ⟨(span.source.text.drop span.start).take (span.stop - span.start)⟩ := by
  simp only [slice, Source.slice, if_pos (And.intro hle h.2)]

theorem Scanner.slice_ahead {count : Nat}
    (h : scanner.offset + count ≤ scanner.source.length) :
    (Span.mk scanner.source scanner.offset (scanner.offset + count)).slice =
      .ok ⟨scanner.rest.take count⟩ := by
  have hle : scanner.offset ≤ scanner.offset + count := Nat.le_add_right ..
  have hslice : (Span.mk scanner.source scanner.offset (scanner.offset + count)).slice = _ :=
    Span.slice_eq_ok ⟨Nat.le_trans hle h, h⟩ hle
  rwa [Nat.add_sub_cancel_left] at hslice

theorem Scanner.add_le_of_le_remaining {count : Nat} (h : scanner.InBounds)
    (hle : count ≤ scanner.remaining) : scanner.offset + count ≤ scanner.source.length := by
  rw [← offset_add_remaining h]
  exact Nat.add_le_add_left hle _

theorem Scanner.peekRun_eq_ok {count : Nat} (h : scanner.InBounds)
    (hle : count ≤ scanner.remaining) :
    scanner.peekRun count = .ok ⟨scanner.rest.take count⟩ := by
  rw [peekRun, if_pos hle]
  exact slice_ahead (add_le_of_le_remaining h hle)

theorem Span.slice_eq_error_iff (h : span.InBounds) :
    (∃ error, span.slice = .error error) ↔ span.stop < span.start := by
  constructor
  · rintro ⟨error, he⟩
    apply Nat.lt_of_not_le
    intro hle
    rw [slice_eq_ok h hle] at he
    cases he
  · intro hlt
    have hn : ¬ (span.start ≤ span.stop ∧ span.stop ≤ span.source.length) := by omega
    exact ⟨.sliceOutOfRange span.start span.stop span.source.length,
      by simp only [slice, Source.slice, if_neg hn]⟩

end TextLocation
