import Mathlib.Data.List.Induction
import TextLocation.Proofs.Session.Basic

namespace TextLocation

/-- What comes of a success has the property. A failure is not one of the bounds, and leaves the
session as it was. -/
def Sound {α : Type} (Q : α → Session → Prop) (call : Calling α) (session : Session) : Prop :=
  match call.run session with
  | .ok a next => Q a next
  | .error failure left => failure ≠ .outOfBounds ∧ left = session

/-- The session is only looked at, and what is found has the property. -/
def Reads {α : Type} (P : α → Prop) (call : Calling α) (session : Session) : Prop :=
  Sound (fun a next => P a ∧ next = session) call session

section Sound

variable {α β : Type} {P : α → Prop} {Q : β → Session → Prop} {session : Session}

theorem Reads.bind {call : Calling α} {next : α → Calling β} (h : Reads P call session)
    (hnext : ∀ a, P a → Sound Q (next a) session) : Sound Q (call >>= next) session := by
  rw [Reads, Sound] at h
  rw [Sound, EStateM.run_bind]
  cases hrun : call.run session with
  | ok a left =>
    rw [hrun] at h
    obtain ⟨ha, rfl⟩ := h
    exact hnext a ha
  | error failure left =>
    rw [hrun] at h
    exact h

theorem Sound.of_error {call : Calling β} (h : Sound Q call session) {failure : Failure}
    {left : Session} (hrun : call.run session = .error failure left) :
    failure ≠ .outOfBounds ∧ left = session := by
  rw [Sound, hrun] at h
  exact h

namespace Calling

theorem reads_obtained {values : Session → List α} {number : Nat}
    (h : ∀ a, (values session)[number]? = some a → P a) :
    Reads P (obtained values number) session := by
  rw [Reads, Sound, run_obtained]
  cases ha : (values session)[number]? with
  | some a => exact ⟨h a ha, rfl⟩
  | none => exact ⟨Failure.noConfusion, rfl⟩

theorem reads_orRefused {result : Except LocationError α} (h : ∀ a, result = .ok a → P a) :
    Reads P (orRefused result) session := by
  cases result with
  | ok a => exact ⟨h a rfl, rfl⟩
  | error error => exact ⟨Failure.noConfusion, rfl⟩

theorem reads_orHalted {result : Except Halt α} (h : ∀ a, result = .ok a → P a) :
    Reads P (orHalted result) session := by
  cases result with
  | ok a => exact ⟨h a rfl, rfl⟩
  | error halt => exact ⟨Failure.noConfusion, rfl⟩

theorem reads_asserted {inBounds : Prop} [Decidable inBounds] (h : inBounds) :
    Reads (fun _ => inBounds) (asserted inBounds) session := by
  rw [asserted, if_pos h]
  exact ⟨h, rfl⟩

theorem run_keepSpan {span : Span} (h : span.InBounds) (session : Session) :
    (keepSpan span).run session = .ok () (session.withSpan span) := by
  rw [keepSpan, asserted, if_pos h]
  rfl

end Calling

end Sound

/-- Every value is in bounds in a source of the session, and the sources are numbered. -/
structure Session.Valid (session : Session) : Prop where
  numbered : session.library.Numbered
  positions : ∀ p ∈ session.positions, p.Within session.library
  spans : ∀ span ∈ session.spans, span.Within session.library
  scanners : ∀ scanner ∈ session.scanners, scanner.Within session.library

namespace Session

theorem valid_empty : empty.Valid where
  numbered := Library.numbered_empty
  positions _ h := by cases h
  spans _ h := by cases h
  scanners _ h := by cases h

/-- The same sources, with valid values obtained from them. -/
def Follows (session next : Session) : Prop := next.Valid ∧ next.library = session.library

/-- What a move leaves is in bounds, and is the scanner as it was when the move halts. -/
structure Moves (library : Library) (move : EStateM Halt Scanner Unit) : Prop where
  within {scanner next : Scanner} : scanner.Within library → move.run scanner = .ok () next →
    next.Within library
  unmoved {scanner left : Scanner} {halt : Halt} : move.run scanner = .error halt left →
    left = scanner

theorem moves_modify {library : Library} {f : Scanner → Scanner}
    (hf : ∀ scanner, scanner.Within library → (f scanner).Within library) :
    Moves library (modify f) where
  within hs hrun := by
    obtain ⟨_, rfl⟩ := EStateM.Result.ok.inj hrun
    exact hf _ hs
  unmoved hrun := nomatch hrun

theorem moves_moveTo {library : Library} (hd : library.Distinct) {p : Position}
    (hp : p.Within library) : Moves library (Scanner.moveTo p) where
  within hs hrun := hs.moveTo hd hp hrun
  unmoved := Scanner.eq_of_run_moveTo_eq_error

open Calling

variable {session : Session}

theorem reads_source (number : Nat) :
    Reads (fun source => source ∈ session.library.sources) (obtained sources number) session :=
  reads_obtained fun _ hs => List.mem_of_getElem? hs

namespace Valid

theorem withSource (h : session.Valid) (name text : String) :
    (session.withSource name text).Valid where
  numbered := h.numbered.add name text
  positions p hp := ⟨List.mem_append_left _ (h.positions p hp).1, (h.positions p hp).2⟩
  spans s hs := ⟨List.mem_append_left _ (h.spans s hs).1, (h.spans s hs).2⟩
  scanners s hs := ⟨List.mem_append_left _ (h.scanners s hs).1, (h.scanners s hs).2⟩

theorem withPosition (h : session.Valid) {p : Position} (hp : p.Within session.library) :
    session.Follows (session.withPosition p) := by
  have hmem := List.forall_mem_append.2 ⟨h.positions, List.forall_mem_singleton.2 hp⟩
  exact ⟨⟨h.numbered, hmem, h.spans, h.scanners⟩, rfl⟩

theorem withSpan (h : session.Valid) {span : Span} (hs : span.Within session.library) :
    session.Follows (session.withSpan span) := by
  have hmem := List.forall_mem_append.2 ⟨h.spans, List.forall_mem_singleton.2 hs⟩
  exact ⟨⟨h.numbered, h.positions, hmem, h.scanners⟩, rfl⟩

theorem withScanner (h : session.Valid) {scanner : Scanner}
    (hs : scanner.Within session.library) : session.Follows (session.withScanner scanner) := by
  have hmem := List.forall_mem_append.2 ⟨h.scanners, List.forall_mem_singleton.2 hs⟩
  exact ⟨⟨h.numbered, h.positions, h.spans, hmem⟩, rfl⟩

theorem withScannerAt (h : session.Valid) (number : Nat) {scanner : Scanner}
    (hs : scanner.Within session.library) :
    session.Follows (session.withScannerAt number scanner) := by
  refine ⟨⟨h.numbered, h.positions, h.spans, ?_⟩, rfl⟩
  intro r hr
  rcases List.mem_or_eq_of_mem_set hr with hr | rfl
  · exact h.scanners r hr
  · exact hs

theorem position (h : session.Valid) (number : Nat) :
    Reads (fun p => p.Within session.library) (obtained Session.positions number) session :=
  reads_obtained fun p hp => h.positions p (List.mem_of_getElem? hp)

theorem span (h : session.Valid) (number : Nat) :
    Reads (fun span => span.Within session.library) (obtained Session.spans number) session :=
  reads_obtained fun s hs => h.spans s (List.mem_of_getElem? hs)

theorem scanner (h : session.Valid) (number : Nat) :
    Reads (fun scanner => scanner.Within session.library) (obtained Session.scanners number)
      session :=
  reads_obtained fun s hs => h.scanners s (List.mem_of_getElem? hs)

theorem keepPosition (h : session.Valid) {p : Position} (hp : p.Within session.library) :
    Sound (fun _ => session.Follows) (keepPosition p) session :=
  (reads_asserted hp.2).bind fun _ _ => h.withPosition hp

theorem keepSpan (h : session.Valid) {span : Span} (hs : span.Within session.library) :
    Sound (fun _ => session.Follows) (keepSpan span) session :=
  (reads_asserted hs.2).bind fun _ _ => h.withSpan hs

theorem keepRefused (h : session.Valid) {result : Except LocationError Span}
    (hr : ∀ span, result = .ok span → span.Within session.library) :
    Sound (fun _ => session.Follows) (orRefused result >>= Calling.keepSpan) session :=
  (reads_orRefused hr).bind fun _ hs => h.keepSpan hs

theorem keepHalted (h : session.Valid) {result : Except LocationError Span}
    (hr : ∀ span, result = .ok span → span.Within session.library) :
    Sound (fun _ => session.Follows) (orHalted (orHalt result) >>= Calling.keepSpan) session :=
  (reads_orHalted fun s hs => hr s (orHalt_eq_ok_iff.1 hs)).bind fun _ hs => h.keepSpan hs

/-- When the move halts, what is put back is the scanner as it was. -/
theorem moved (h : session.Valid) (number : Nat) {move : EStateM Halt Scanner Unit}
    (hmove : Moves session.library move) :
    Sound (fun _ => session.Follows) (moved number move) session := by
  have hread : Reads (fun scanner => session.scanners[number]? = some scanner)
      (obtained Session.scanners number) session := reads_obtained fun _ hs => hs
  apply hread.bind
  intro scanner hs
  cases hrun : move.run scanner with
  | ok _ next =>
    have hwithin := h.scanners scanner (List.mem_of_getElem? hs)
    exact h.withScannerAt number (hmove.within hwithin hrun)
  | error halt left =>
    obtain rfl := hmove.unmoved hrun
    obtain ⟨hlt, hget⟩ := List.getElem?_eq_some_iff.1 hs
    have hset : session.withScannerAt number left = session := by
      rw [Session.withScannerAt, ← hget, List.set_getElem_self hlt]
    exact ⟨Failure.noConfusion, hset⟩

theorem perform (h : session.Valid) (hlen : session.library.sources.length ≤ SourceId.count)
    {call : Call} (hc : call.addsSource = false) :
    Sound (fun _ => session.Follows) (perform call) session := by
  have hd := h.numbered.distinct hlen
  cases call with
  | addSource name text => cases hc
  | scanner source =>
    apply (reads_source source).bind
    intro source hs
    exact h.withScanner (Source.scanner_within hs)
  | position source offset =>
    apply (reads_source source).bind
    intro source hs
    apply (reads_orRefused fun p hp => Source.position_within hs hp).bind
    intro p hp
    exact h.keepPosition hp
  | span source start stop =>
    apply (reads_source source).bind
    intro source _
    apply (h.position start).bind
    intro p hp
    apply (h.position stop).bind
    intro q hq
    exact h.keepRefused fun s hs => Source.span_within hp hd hq hs
  | spanOrHalt source start stop =>
    apply (reads_source source).bind
    intro source _
    apply (h.position start).bind
    intro p hp
    apply (h.position stop).bind
    intro q hq
    exact h.keepHalted fun s hs => Source.span_within hp hd hq hs
  | spanToPosition start stop =>
    apply (h.position start).bind
    intro p hp
    apply (h.position stop).bind
    intro q hq
    exact h.keepRefused fun s hs => hp.spanTo hd hq hs
  | spanToPositionOrHalt start stop =>
    apply (h.position start).bind
    intro p hp
    apply (h.position stop).bind
    intro q hq
    exact h.keepHalted fun s hs => hp.spanTo hd hq hs
  | startPosition span =>
    apply (h.span span).bind
    intro s hs
    exact h.keepPosition hs.start
  | stopPosition span =>
    apply (h.span span).bind
    intro s hs
    exact h.keepPosition hs.stop
  | spanTo first last =>
    apply (h.span first).bind
    intro a ha
    apply (h.span last).bind
    intro b hb
    apply (reads_asserted hb.stop.2).bind
    intro _ _
    exact h.keepRefused fun s hs => ha.spanTo hd hb hs
  | spanToOrHalt first last =>
    apply (h.span first).bind
    intro a ha
    apply (h.span last).bind
    intro b hb
    apply (reads_asserted hb.stop.2).bind
    intro _ _
    exact h.keepHalted fun s hs => ha.spanTo hd hb hs
  | copy scanner =>
    apply (h.scanner scanner).bind
    intro s hs
    exact h.withScanner hs
  | skip scanner => exact h.moved scanner (moves_modify fun _ hs => hs.skip)
  | skipN scanner count => exact h.moved scanner (moves_modify fun _ hs => hs.skipN count)
  | skipWhile scanner test state =>
    apply (h.scanner scanner).bind
    intro s hs
    obtain ⟨hscanner, hspan⟩ := hs.skipWhile test state
    have hfollows := (h.withScannerAt scanner hscanner).1.withSpan hspan
    rw [Sound, EStateM.run_bind, EStateM.run_modify]
    dsimp only
    rw [Calling.run_keepSpan hspan.2]
    exact hfollows
  | moveTo scanner position =>
    apply (h.position position).bind
    intro p hp
    exact h.moved scanner (moves_moveTo hd hp)
  | scannerPosition scanner =>
    apply (h.scanner scanner).bind
    intro s hs
    exact h.keepPosition hs.position
  | charSpan scanner =>
    apply (h.scanner scanner).bind
    intro s hs
    exact h.keepSpan hs.charSpan
  | spanFrom scanner start =>
    apply (h.scanner scanner).bind
    intro s hs
    apply (h.position start).bind
    intro p hp
    apply (reads_asserted hs.position.2).bind
    intro _ _
    exact h.keepHalted fun t ht => Source.span_within hp hd hs.position ht
  | spanBetween scanner start stop =>
    apply (h.scanner scanner).bind
    intro s _
    apply (h.position start).bind
    intro p hp
    apply (h.position stop).bind
    intro q hq
    exact h.keepHalted fun t ht => Source.span_within hp hd hq ht

/-- Whether it succeeds or fails, a call that adds no source keeps the library and validity. -/
theorem step (h : session.Valid) (hlen : session.library.sources.length ≤ SourceId.count)
    {call : Call} (hc : call.addsSource = false) : session.Follows (session.step call) := by
  have hs := h.perform hlen hc
  rw [Sound] at hs
  rw [Session.step]
  cases hrun : (Session.perform call).run session with
  | ok _ next =>
    rw [hrun] at hs
    exact hs
  | error failure left =>
    rw [hrun] at hs
    obtain ⟨_, rfl⟩ := hs
    exact ⟨h, rfl⟩

/-- A call that fails has not met a bound, and has changed nothing. -/
theorem perform_eq_error (h : session.Valid)
    (hlen : session.library.sources.length ≤ SourceId.count) {call : Call} {failure : Failure}
    {left : Session} (hrun : (Session.perform call).run session = .error failure left) :
    failure ≠ .outOfBounds ∧ left = session := by
  cases hc : call.addsSource with
  | false => exact (h.perform hlen hc).of_error hrun
  | true =>
    cases call with
    | addSource name text => cases hrun
    | _ => cases hc

end Valid

theorem valid_after (calls : List Call) (h : calls.countP Call.addsSource ≤ SourceId.count) :
    (after calls).Valid ∧
      (after calls).library.sources.length = calls.countP Call.addsSource := by
  induction calls using List.reverseRecOn with
  | nil => exact ⟨valid_empty, rfl⟩
  | append_singleton calls call ih =>
    rw [List.countP_append, List.countP_singleton] at h ⊢
    obtain ⟨hv, hlen⟩ := ih (by omega)
    rw [after_concat]
    cases hc : call.addsSource with
    | false =>
      obtain ⟨hv', hl⟩ := hv.step (by omega) hc
      exact ⟨hv', by simp [hl, hlen]⟩
    | true =>
      cases call with
      | addSource name text =>
        refine ⟨hv.withSource name text, ?_⟩
        change ((after calls).library.add name text).sources.length = _
        simp [Library.add, hlen]
      | _ => cases hc

/-- Whatever is called, in whatever order and on whatever values, nothing is built out of bounds,
and each value obtained keeps to the bounds of the source that it is bound to. -/
theorem after_inBounds (calls : List Call) (h : calls.countP Call.addsSource ≤ SourceId.count) :
    let session := after calls
    session.library.Distinct ∧
      (∀ call left, (perform call).run session ≠ .error .outOfBounds left) ∧
      (∀ p ∈ session.positions,
        p.source ∈ session.library.sources ∧ p.offset ≤ p.source.length) ∧
      (∀ span ∈ session.spans,
        span.source ∈ session.library.sources ∧ span.start ≤ span.source.length ∧
          span.stop ≤ span.source.length ∧
          ((∃ error, span.slice = .error error) ↔ span.stop < span.start)) ∧
      (∀ scanner ∈ session.scanners,
        scanner.source ∈ session.library.sources ∧ scanner.offset ≤ scanner.source.length ∧
          scanner.offset + scanner.remaining = scanner.source.length ∧
          (scanner.isEnd = true ↔ scanner.remaining = 0) ∧
          (scanner.remaining = 0 ↔ scanner.peek = none)) := by
  intro session
  obtain ⟨hv, hlen⟩ := valid_after calls h
  have hle : session.library.sources.length ≤ SourceId.count := by
    rw [hlen]
    exact h
  refine ⟨hv.numbered.distinct hle, ?_, hv.positions, ?_, ?_⟩
  · intro call left hrun
    exact (hv.perform_eq_error hle hrun).1 rfl
  · intro span hs
    obtain ⟨hsource, hbounds⟩ := hv.spans span hs
    exact ⟨hsource, hbounds.1, hbounds.2, Span.slice_eq_error_iff hbounds⟩
  · intro scanner hs
    obtain ⟨hsource, hbounds⟩ := hv.scanners scanner hs
    exact ⟨hsource, hbounds, Scanner.offset_add_remaining hbounds, Scanner.isEnd_iff hbounds,
      scanner.remaining_eq_zero_iff⟩

/-- A scanner of a short source is not led to a place that only a longer source has. -/
theorem after_inBounds_foreign_position :
    let calls : List Call :=
      [.addSource "long" "ab\ncd", .addSource "short" "x", .position 0 5, .scanner 1, .moveTo 0 0,
        .skipN 0 9, .position 0 0, .spanToPosition 0 1]
    calls.countP Call.addsSource ≤ SourceId.count ∧
      (after calls).scanners.map Scanner.offset = [1] ∧
      (after calls).spans.map (fun span => (span.start, span.stop)) = [(5, 0)] ∧
      (∀ call left, (perform call).run (after calls) ≠ .error .outOfBounds left) ∧
      ∀ scanner ∈ (after calls).scanners,
        scanner.offset + scanner.remaining = scanner.source.length := by
  intro calls
  have h : calls.countP Call.addsSource ≤ SourceId.count := by decide
  obtain ⟨_, hperform, _, _, hscanners⟩ := after_inBounds calls h
  exact ⟨h, by decide, by decide, hperform, fun s hs => (hscanners s hs).2.2.1⟩

end Session

end TextLocation
