import TextLocation.Proofs.Joining
import TextLocation.Proofs.Session.Invariant

namespace TextLocation.Session

open Calling

variable {session left : Session} {call : Call} {failure : Failure}

theorem step_of_error (h : (perform call).run session = .error failure left) :
    session.step call = left := by
  rw [step, h]

/-- After a call that has changed nothing all goes on as though it had not been made. -/
theorem after_append_of_step {calls : List Call} (h : (after calls).step call = after calls)
    (more : List Call) : after (calls ++ call :: more) = after (calls ++ more) := by
  calc
    after (calls ++ call :: more) = more.foldl step ((after calls).step call) := by
      rw [after, List.foldl_append, List.foldl_cons, after]
    _ = after (calls ++ more) := by rw [h, after, ← List.foldl_append, after]

theorem run_moved_of_error {number : Nat} {move : EStateM Halt Scanner Unit}
    {scanner stopped : Scanner} {halt : Halt} (hs : session.scanners[number]? = some scanner)
    (hmove : move.run scanner = .error halt stopped) :
    (moved number move).run session =
      .error (.halted halt) (session.withScannerAt number stopped) := by
  rw [moved, EStateM.run_bind, run_obtained, hs]
  dsimp only
  rw [hmove]
  rfl

theorem run_perform_moveTo {number place : Nat} {p : Position}
    (hp : session.positions[place]? = some p) :
    (perform (.moveTo number place)).run session =
      (moved number (Scanner.moveTo p)).run session := by
  rw [perform, EStateM.run_bind, run_obtained, hp]

theorem Valid.source_eq (h : session.Valid)
    (hlen : session.library.sources.length ≤ SourceId.count) {source : Source}
    (hs : source ∈ session.library.sources) {p : Position} (hp : p ∈ session.positions)
    (hid : p.source.id = source.id) : p.source = source :=
  h.numbered.distinct hlen _ (h.positions p hp).1 _ hs hid

/-- What has been obtained is joined when all of it is of the source of the receiver, and the span
is then in this source. Otherwise the first operand of another source is refused, and a call that is
refused changes nothing. -/
theorem after_joins (calls : List Call) (h : calls.countP Call.addsSource ≤ SourceId.count) :
    let session := after calls
    (∀ p ∈ session.positions, ∀ q ∈ session.positions,
      let joined : Span := ⟨p.source, p.offset, q.offset⟩
      Joins id p.source.id [q.source.id] joined (p.spanTo q) ∧
        Joins LocationError.halt p.source.id [q.source.id] joined (p.spanToOrHalt q)) ∧
      (∀ a ∈ session.spans, ∀ b ∈ session.spans,
        let joined : Span := ⟨a.source, a.start, b.stop⟩
        Joins id a.source.id [b.source.id] joined (a.spanTo b) ∧
          Joins LocationError.halt a.source.id [b.source.id] joined (a.spanToOrHalt b)) ∧
      (∀ source ∈ session.library.sources, ∀ p ∈ session.positions, ∀ q ∈ session.positions,
        let joined : Span := ⟨source, p.offset, q.offset⟩
        Joins id source.id [p.source.id, q.source.id] joined (source.span p q) ∧
          Joins LocationError.halt source.id [p.source.id, q.source.id] joined
            (source.spanOrHalt p q)) ∧
      (∀ scanner ∈ session.scanners, ∀ p ∈ session.positions,
        Joins LocationError.halt scanner.source.id [p.source.id]
            ⟨scanner.source, p.offset, scanner.offset⟩ (scanner.spanFrom p) ∧
          Joins LocationError.halt scanner.source.id [p.source.id] ⟨scanner.source, p.offset⟩
            (reached ((Scanner.moveTo p).run scanner)) ∧
          (∀ halt left, (Scanner.moveTo p).run scanner = .error halt left → left = scanner) ∧
          ∀ q ∈ session.positions,
            Joins LocationError.halt scanner.source.id [p.source.id, q.source.id]
              ⟨scanner.source, p.offset, q.offset⟩ (scanner.spanBetween p q)) ∧
      (∀ number place scanner p, session.scanners[number]? = some scanner →
        session.positions[place]? = some p → p.source.id ≠ scanner.source.id →
          session.step (.moveTo number place) = session) ∧
      ∀ call failure left, (perform call).run session = .error failure left →
        left = session ∧ ∀ more, after (calls ++ call :: more) = after (calls ++ more) := by
  intro session
  obtain ⟨hv, hcount⟩ := valid_after calls h
  have hlen : session.library.sources.length ≤ SourceId.count := by
    rw [hcount]
    exact h
  have hfailed {call : Call} {failure : Failure} {left : Session}
      (hrun : (perform call).run session = .error failure left) : left = session :=
    (hv.perform_eq_error hlen hrun).2
  refine ⟨?_, ?_, ?_, ?_, ?_, ?_⟩
  · intro p _ q _ joined
    exact ⟨p.joins_spanTo q, (p.joins_spanTo q).orHalt⟩
  · intro a _ b _ joined
    exact ⟨a.joins_spanTo b, (a.joins_spanTo b).orHalt⟩
  · intro source hs p hp q _ joined
    have hjoins : Joins id source.id [p.source.id, q.source.id] joined (source.span p q) :=
      joins_span (hv.source_eq hlen hs hp)
    exact ⟨hjoins, hjoins.orHalt⟩
  · intro scanner hs p hp
    have hsource := (hv.scanners scanner hs).1
    refine ⟨Scanner.joins_spanFrom (hv.source_eq hlen hsource hp), scanner.joins_moveTo p,
      fun _ _ => Scanner.eq_of_run_moveTo_eq_error, ?_⟩
    intro q _
    exact (joins_span (hv.source_eq hlen hsource hp)).orHalt
  · intro number place scanner p hs hp hforeign
    have hrun := run_moved_of_error hs (Scanner.run_moveTo_foreign hforeign)
    rw [← run_perform_moveTo hp] at hrun
    rw [step_of_error hrun]
    exact hfailed hrun
  · intro call failure left hrun
    have hleft : left = session := hfailed hrun
    exact ⟨hleft, after_append_of_step ((step_of_error hrun).trans hleft)⟩

/-- Of two operands of other sources the first is named, and a scanner refused a position stays. -/
theorem after_joins_three_sources :
    let calls : List Call :=
      [.addSource "a" "xy", .addSource "b" "z", .addSource "c" "", .position 0 2, .position 1 1,
        .position 2 0, .scanner 0, .skip 0]
    let a : Source := ⟨⟨0⟩, "a", ['x', 'y']⟩
    let b : Source := ⟨⟨1⟩, "b", ['z']⟩
    let c : Source := ⟨⟨2⟩, "c", []⟩
    calls.countP Call.addsSource ≤ SourceId.count ∧
      (after calls).library.sources = [a, b, c] ∧
      (after calls).positions = [⟨a, 2⟩, ⟨b, 1⟩, ⟨c, 0⟩] ∧
      (after calls).scanners = [⟨a, 1⟩] ∧
      a.span ⟨b, 1⟩ ⟨c, 0⟩ = .error (.sourceMismatch ⟨0⟩ ⟨1⟩) ∧
      a.spanOrHalt ⟨a, 2⟩ ⟨c, 0⟩ =
        .error ⟨"cannot combine locations from different sources (source#0 and source#2)"⟩ ∧
      (after calls).step (.moveTo 0 1) = after calls ∧
      after (calls ++ [.spanOrHalt 0 1 2, .skip 0]) = after (calls ++ [.skip 0]) := by
  intro calls a b c
  have h : calls.countP Call.addsSource ≤ SourceId.count := by decide
  have hsources : (after calls).library.sources = [a, b, c] := rfl
  have hpositions : (after calls).positions = [⟨a, 2⟩, ⟨b, 1⟩, ⟨c, 0⟩] := rfl
  obtain ⟨_, _, hspan, _, hmove, hfailed⟩ := after_joins calls h
  rw [hsources, hpositions] at hspan
  have hboth := hspan a (by simp) ⟨b, 1⟩ (by simp) ⟨c, 0⟩ (by simp)
  have hlast := hspan a (by simp) ⟨a, 2⟩ (by simp) ⟨c, 0⟩ (by simp)
  refine ⟨h, hsources, hpositions, rfl, ?_, ?_, ?_, ?_⟩
  · exact (hboth.1.eq_error_iff _).2 ⟨[], ⟨1⟩, [⟨2⟩], rfl, by simp, by decide, rfl⟩
  · exact (hlast.2.eq_error_iff _).2
      ⟨[⟨0⟩], ⟨2⟩, [], rfl, by simp [a], by decide, by decide +kernel⟩
  · exact hmove 0 1 ⟨a, 1⟩ ⟨b, 1⟩ rfl rfl (by decide)
  · exact (hfailed (.spanOrHalt 0 1 2) (.halted _) _ rfl).2 [.skip 0]

end TextLocation.Session
