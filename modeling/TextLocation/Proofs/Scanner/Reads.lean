import TextLocation.Proofs.Scanner.Forward
import TextLocation.Proofs.Word

namespace TextLocation

/-- A read that accepts its domain and nothing else. Within the domain it gives a value that is as
meant, outside of it there is one refusal. -/
structure ReadsOn {α : Type} (domain : Prop) (meant : α → Prop) (refusal : LocationError)
    (result : Except LocationError α) : Prop where
  value : domain → ∃ a, result = .ok a ∧ meant a
  refused : ¬ domain → result = .error refusal

section ReadsOn

variable {α : Type} {domain : Prop} {meant : α → Prop} {refusal : LocationError}
  {result : Except LocationError α}

theorem readsOn_ite [Decidable domain] (h : domain → ∃ a, result = .ok a ∧ meant a) :
    ReadsOn domain meant refusal (if domain then result else .error refusal) where
  value hd := by
    rw [if_pos hd]
    exact h hd
  refused hd := if_neg hd

theorem ReadsOn.eq_refusal (h : ReadsOn domain meant refusal result) {error : LocationError}
    (he : result = .error error) : error = refusal := by
  by_cases hd : domain
  · obtain ⟨a, ha, _⟩ := h.value hd
    rw [ha] at he
    cases he
  · exact Except.error.inj (he.symm.trans (h.refused hd))

end ReadsOn

namespace Source

theorem charAt_eq_ok_iff {source : Source} {offset : Nat} {c : Char} :
    source.charAt offset = .ok c ↔ source.text[offset]? = some c := by
  rw [charAt]
  split
  · next d hd => rw [hd, Except.ok.injEq, Option.some.injEq]
  · next hd => simp [hd]

variable (source : Source) (start mid stop : Nat)

theorem readsOn_charAt :
    ReadsOn (start < source.length) (fun c => source.text[start]? = some c)
      (.offsetOutOfRange start source.length) (source.charAt start) where
  value h := by
    have hc : source.text[start]? = some source.text[start] := List.getElem?_eq_getElem h
    exact ⟨_, charAt_eq_ok_iff.2 hc, hc⟩
  refused h := by
    have hn : source.text[start]? = none := List.getElem?_eq_none (Nat.le_of_not_lt h)
    rw [charAt, hn]

theorem readsOn_position :
    ReadsOn (start ≤ source.length) (fun p => p = ⟨source, start⟩)
      (.offsetOutOfRange start source.length) (source.position start) :=
  readsOn_ite fun _ => ⟨_, rfl, rfl⟩

/-- The characters of a run are those of the source from `start` up to `stop`. -/
def Shows (run : Run) : Prop :=
  run.length = stop - start ∧
    ∀ i < stop - start, ∃ c, run.chars[i]? = some c ∧ source.charAt (start + i) = .ok c

theorem shows_take (h : stop ≤ source.length) :
    source.Shows start stop ⟨(source.text.drop start).take (stop - start)⟩ := by
  have hlength : source.text.length = source.length := rfl
  refine ⟨?_, ?_⟩
  · rw [Run.length, List.length_take, List.length_drop, hlength]
    omega
  · intro i hi
    have hlt : start + i < source.text.length := by omega
    refine ⟨source.text[start + i], ?_, ?_⟩
    · rw [List.getElem?_take_of_lt hi, List.getElem?_drop, List.getElem?_eq_getElem hlt]
    · rw [charAt_eq_ok_iff, List.getElem?_eq_getElem hlt]

theorem readsOn_slice :
    ReadsOn (start ≤ stop ∧ stop ≤ source.length) (source.Shows start stop)
      (.sliceOutOfRange start stop source.length) (source.slice start stop) :=
  readsOn_ite fun h => ⟨_, rfl, source.shows_take start stop h.2⟩

/-- Slices that meet make up the slice over both. -/
theorem slice_append (hstart : start ≤ mid) (hmid : mid ≤ stop) (hstop : stop ≤ source.length) :
    ∃ left right, source.slice start mid = .ok left ∧ source.slice mid stop = .ok right ∧
      source.slice start stop = .ok ⟨left.chars ++ right.chars⟩ := by
  have hle : mid ≤ source.length := Nat.le_trans hmid hstop
  refine ⟨_, _, if_pos ⟨hstart, hle⟩, if_pos ⟨hmid, hstop⟩, ?_⟩
  rw [slice, if_pos ⟨Nat.le_trans hstart hmid, hstop⟩, take_drop_append hstart hmid]

/-- The span between the positions of two offsets. -/
theorem exists_span (hstart : start ≤ source.length) (hstop : stop ≤ source.length) :
    ∃ p q, source.position start = .ok p ∧ source.position stop = .ok q ∧
      p.spanTo q = .ok ⟨source, start, stop⟩ :=
  ⟨_, _, if_pos hstart, if_pos hstop, Position.spanTo_eq_ok_iff.2 ⟨rfl, rfl⟩⟩

end Source

namespace Scanner

variable {scanner : Scanner} {count : Nat}

/-- What a look at the next characters gives: the slice from the scanner on, which is also the slice
of what is passed by moving on as far. -/
structure Peeked (scanner : Scanner) (count : Nat) (run : Run) : Prop where
  stop_le : scanner.offset + count ≤ scanner.source.length
  word : scanner.source.Addressable →
    (UInt64.ofNat scanner.offset + UInt64.ofNat count).toNat = scanner.offset + count
  slice : scanner.source.slice scanner.offset (scanner.offset + count) = .ok run
  passed : ∃ span, (scanner.skipN count).spanFrom scanner.position = .ok span ∧
    span.slice = .ok run
  head : 0 < count → run.chars.head? = scanner.peek

theorem peeked_take (h : scanner.InBounds) (hle : count ≤ scanner.remaining) :
    scanner.Peeked count ⟨scanner.rest.take count⟩ := by
  have hstop := add_le_of_le_remaining h hle
  refine ⟨hstop, fun ha => ha.toNat_add hstop, slice_ahead hstop,
    ⟨_, (passes_skipN h count).spanFrom, ?_⟩, ?_⟩
  · rw [skipN_eq hstop]
    exact slice_ahead hstop
  · intro hcount
    rw [peek, ← List.head?_drop, List.head?_take]
    exact if_neg (Nat.ne_of_gt hcount)

theorem readsOn_peekRun (h : scanner.InBounds) (count : Nat) :
    ReadsOn (count ≤ scanner.remaining) (scanner.Peeked count)
      (.peekPastEnd count scanner.remaining) (scanner.peekRun count) where
  value hle := ⟨_, peekRun_eq_ok h hle, peeked_take h hle⟩
  refused hn := if_neg hn

/-- A look at one character and a look at the next run of one agree. -/
theorem peekRun_one (h : scanner.InBounds) :
    scanner.peekRun 1 =
      scanner.peek.elim (.error (.peekPastEnd 1 0)) fun c => .ok ⟨[c]⟩ := by
  cases hpeek : scanner.peek with
  | none =>
    have hzero : scanner.remaining = 0 := scanner.remaining_eq_zero_iff.2 hpeek
    rw [(readsOn_peekRun h 1).refused (by omega), hzero]
    rfl
  | some c =>
    have hpos : scanner.remaining ≠ 0 := by
      rw [Ne, scanner.remaining_eq_zero_iff, hpeek]
      exact Option.some_ne_none c
    rw [peekRun_eq_ok h (Nat.one_le_iff_ne_zero.2 hpos), List.take_one, rest, List.head?_drop]
    change Except.ok (Run.mk scanner.peek.toList) = _
    rw [hpeek]
    rfl

theorem peek_eq_some_iff (h : scanner.InBounds) {c : Char} :
    scanner.peek = some c ↔ scanner.peekRun 1 = .ok ⟨[c]⟩ := by
  rw [peekRun_one h]
  cases scanner.peek with
  | none => simp
  | some d => simp

theorem peek_eq_none_iff (h : scanner.InBounds) :
    scanner.peek = none ↔ scanner.peekRun 1 = .error (.peekPastEnd 1 0) := by
  rw [peekRun_one h]
  cases scanner.peek with
  | none => simp
  | some d => simp

/-- Every read gives a value on its domain and refuses all else, always in its own words. Reads of
the same place give the same characters, whichever way the place is named. -/
structure ReadsAgree (source : Source) (start mid stop : Nat) (scanner : Scanner) (count : Nat) :
    Prop where
  charAt : ReadsOn (start < source.length) (fun c => source.text[start]? = some c)
    (.offsetOutOfRange start source.length) (source.charAt start)
  position : ReadsOn (start ≤ source.length) (fun p => p = ⟨source, start⟩)
    (.offsetOutOfRange start source.length) (source.position start)
  slice : ReadsOn (start ≤ stop ∧ stop ≤ source.length) (source.Shows start stop)
    (.sliceOutOfRange start stop source.length) (source.slice start stop)
  slices_meet : start ≤ mid → mid ≤ stop → stop ≤ source.length →
    ∃ left right, source.slice start mid = .ok left ∧ source.slice mid stop = .ok right ∧
      source.slice start stop = .ok ⟨left.chars ++ right.chars⟩
  slice_between : start ≤ source.length → stop ≤ source.length →
    ∃ p q span, source.position start = .ok p ∧ source.position stop = .ok q ∧
      p.spanTo q = .ok span ∧ span.slice = source.slice start stop
  slice_span : ∀ span : Span, span.slice = span.source.slice span.start span.stop
  peekRun : ReadsOn (count ≤ scanner.source.length - scanner.offset) (scanner.Peeked count)
    (.peekPastEnd count (scanner.source.length - scanner.offset)) (scanner.peekRun count)
  peekRun_ne_slice : ∀ first last length,
    scanner.peekRun count ≠ .error (.sliceOutOfRange first last length)
  peek_eq_some_iff : ∀ c, (scanner.peek = some c ↔ scanner.source.charAt scanner.offset = .ok c) ∧
    (scanner.peek = some c ↔ scanner.peekRun 1 = .ok ⟨[c]⟩)
  peek_eq_none_iff : scanner.peek = none ↔ scanner.peekRun 1 = .error (.peekPastEnd 1 0)

theorem reads_agree (source : Source) (start mid stop : Nat) (scanner : Scanner)
    (h : scanner.InBounds) (count : Nat) : ReadsAgree source start mid stop scanner count where
  charAt := source.readsOn_charAt start
  position := source.readsOn_position start
  slice := source.readsOn_slice start stop
  slices_meet := source.slice_append start mid stop
  slice_between hstart hstop := by
    obtain ⟨p, q, hp, hq, hspan⟩ := source.exists_span start stop hstart hstop
    exact ⟨p, q, _, hp, hq, hspan, rfl⟩
  slice_span _ := rfl
  peekRun := readsOn_peekRun h count
  peekRun_ne_slice first last length he := by
    cases (readsOn_peekRun h count).eq_refusal he
  peek_eq_some_iff _ := ⟨Source.charAt_eq_ok_iff.symm, peek_eq_some_iff h⟩
  peek_eq_none_iff := peek_eq_none_iff h

/-- Bounds that are reversed or past the end are refused, and a look too far ahead is no slice. -/
theorem reads_agree_refused :
    let source : Source := ⟨⟨0⟩, "f", ['a', '\n', 'b']⟩
    let scanner : Scanner := ⟨source, 1⟩
    let most : Nat := 18446744073709551615
    scanner.InBounds ∧
      source.charAt 3 = .error (.offsetOutOfRange 3 3) ∧
      source.slice 3 2 = .error (.sliceOutOfRange 3 2 3) ∧
      scanner.peekRun most = .error (.peekPastEnd most 2) ∧
      (∃ run, scanner.peekRun 2 = .ok run ∧ scanner.Peeked 2 run) ∧
      ∃ left right, source.slice 0 2 = .ok left ∧ source.slice 2 3 = .ok right ∧
        source.slice 0 3 = .ok ⟨left.chars ++ right.chars⟩ := by
  intro source scanner most
  have h : scanner.InBounds := by decide
  have hpast := reads_agree source 3 0 2 scanner h most
  have hwithin := reads_agree source 0 2 3 scanner h 2
  exact ⟨h, hpast.charAt.refused (by decide), hpast.slice.refused (by decide),
    hpast.peekRun.refused (by decide), hwithin.peekRun.value (by decide),
    hwithin.slices_meet (by decide) (by decide) (by decide)⟩

end Scanner

end TextLocation
