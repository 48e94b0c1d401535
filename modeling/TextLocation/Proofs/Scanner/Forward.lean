import TextLocation.Proofs.Scanner.Tiling

namespace TextLocation

/-- What a scanner does without going back. A look is anything that can be asked of it. -/
inductive Move : Type 1 where
  | look {α : Type} (ask : Scanner → α)
  | skip
  | skipN (count : Nat)
  | skipWhile {σ : Type} (test : Test σ) (state : σ)

namespace Scanner

def move (scanner : Scanner) : Move → Scanner
  | .look _ => scanner
  | .skip => scanner.skip
  | .skipN count => scanner.skipN count
  | .skipWhile test state => (scanner.skipWhile test state).scanner

/-- What is read of the characters that a move passes: before it, or off the span that it gives. -/
def readOf (scanner : Scanner) : Move → Except LocationError Run
  | .look _ => .ok ⟨[]⟩
  | .skip => .ok ⟨scanner.peek.toList⟩
  | .skipN count => scanner.peekRun (min count scanner.remaining)
  | .skipWhile test state => (scanner.skipWhile test state).span.slice

def after (scanner : Scanner) (moves : List Move) : Scanner := moves.foldl move scanner

/-- What is read of all that several moves pass, in their order. -/
def readAlong (scanner : Scanner) : List Move → Except LocationError Run
  | [] => .ok ⟨[]⟩
  | first :: moves => do
    let run ← scanner.readOf first
    let later ← (scanner.move first).readAlong moves
    return ⟨run.chars ++ later.chars⟩

/-- The place of the scanner when the first few of the moves are made. -/
def mark (scanner : Scanner) (moves : List Move) (made : Nat) : Position :=
  (scanner.after (moves.take made)).position

theorem after_append (scanner : Scanner) (moves more : List Move) :
    scanner.after (moves ++ more) = (scanner.after moves).after more :=
  List.foldl_append

/-- From one scanner to another ahead of it in the same source, and the text between the two. -/
structure Passes (scanner next : Scanner) (run : Except LocationError Run) : Prop where
  source_eq : next.source = scanner.source
  offset_le : scanner.offset ≤ next.offset
  inBounds : next.InBounds
  run_eq : run = .ok ⟨scanner.rest.take (next.offset - scanner.offset)⟩

variable {scanner next last : Scanner} {run : Except LocationError Run}

theorem passes_self (h : scanner.InBounds) : Passes scanner scanner (.ok ⟨[]⟩) where
  source_eq := rfl
  offset_le := Nat.le_refl _
  inBounds := h
  run_eq := by rw [Nat.sub_self, List.take_zero]

theorem Passes.trans (h : Passes scanner next run) {later : Except LocationError Run}
    (h' : Passes next last later) :
    Passes scanner last (do return ⟨(← run).chars ++ (← later).chars⟩) where
  source_eq := h'.source_eq.trans h.source_eq
  offset_le := Nat.le_trans h.offset_le h'.offset_le
  inBounds := h'.inBounds
  run_eq := by
    rw [h.run_eq, h'.run_eq, rest, rest, h.source_eq,
      ← take_drop_append h.offset_le h'.offset_le]
    rfl

theorem passes_add {count : Nat} (h : scanner.offset + count ≤ scanner.source.length) :
    Passes scanner ⟨scanner.source, scanner.offset + count⟩ (.ok ⟨scanner.rest.take count⟩) where
  source_eq := rfl
  offset_le := Nat.le_add_right ..
  inBounds := h
  run_eq := by rw [Nat.add_sub_cancel_left]

theorem passes_skip (h : scanner.InBounds) :
    Passes scanner scanner.skip (.ok ⟨scanner.peek.toList⟩) := by
  by_cases hlt : scanner.offset < scanner.source.length
  · have hpeek : scanner.peek.toList = scanner.rest.take 1 := by
      rw [List.take_one, rest, List.head?_drop, peek]
    rw [skip_of_lt hlt, hpeek]
    exact passes_add hlt
  · have hle := Nat.le_of_not_lt hlt
    have hpeek : scanner.peek = none := List.getElem?_eq_none hle
    rw [skip_of_le hle, hpeek]
    exact passes_self h

theorem passes_skipN (h : scanner.InBounds) (count : Nat) :
    Passes scanner (scanner.skipN count) (scanner.peekRun (min count scanner.remaining)) := by
  have hskip : scanner.skipN count =
      ⟨scanner.source, scanner.offset + min count scanner.remaining⟩ := by
    rw [skipN, ← offset_add_remaining h, Nat.add_min_add_left]
  have hle : min count scanner.remaining ≤ scanner.remaining := Nat.min_le_right ..
  rw [hskip, peekRun_eq_ok h hle]
  exact passes_add (add_le_of_le_remaining h hle)

theorem passes_skipWhile (h : scanner.InBounds) {σ : Type} (test : Test σ) (state : σ) :
    Passes scanner (scanner.skipWhile test state).scanner
      (scanner.skipWhile test state).span.slice := by
  have hle := h.run_le test state
  have hslice : (scanner.skipWhile test state).span.slice = _ := slice_ahead hle
  rw [hslice]
  exact passes_add hle

theorem passes_move (h : scanner.InBounds) (move : Move) :
    Passes scanner (scanner.move move) (scanner.readOf move) := by
  cases move with
  | look ask => exact passes_self h
  | skip => exact passes_skip h
  | skipN count => exact passes_skipN h count
  | skipWhile test state => exact passes_skipWhile h test state

theorem passes_after (h : scanner.InBounds) (moves : List Move) :
    Passes scanner (scanner.after moves) (scanner.readAlong moves) := by
  induction moves generalizing scanner with
  | nil => exact passes_self h
  | cons first moves ih =>
    have hfirst := passes_move h first
    exact hfirst.trans (ih hfirst.inBounds)

theorem Passes.spanFrom (h : Passes scanner next run) :
    next.spanFrom scanner.position = .ok ⟨scanner.source, scanner.offset, next.offset⟩ := by
  rw [Scanner.spanFrom, Source.spanOrHalt, orHalt_eq_ok_iff, Source.span_eq_ok_iff]
  exact ⟨congrArg Source.id h.source_eq.symm, congrArg Source.id h.source_eq, rfl⟩

end Scanner

namespace Position

/-- The second position is in the same source as the first and not before it. -/
structure Reaches (p q : Position) : Prop where
  source_eq : q.source = p.source
  offset_le : p.offset ≤ q.offset
  inBounds : q.InBounds

variable {p q r : Position}

theorem reaches_self (h : p.InBounds) : p.Reaches p := ⟨rfl, Nat.le_refl _, h⟩

theorem Reaches.trans (h : p.Reaches q) (h' : q.Reaches r) : p.Reaches r :=
  ⟨h'.source_eq.trans h.source_eq, Nat.le_trans h.offset_le h'.offset_le, h'.inBounds⟩

theorem Reaches.spanToOrHalt (h : p.Reaches q) :
    p.spanToOrHalt q = .ok ⟨p.source, p.offset, q.offset⟩ := by
  rw [Position.spanToOrHalt, orHalt_eq_ok_iff, spanTo_eq_ok_iff]
  exact ⟨congrArg Source.id h.source_eq, rfl⟩

theorem Reaches.slice (h : p.Reaches q) :
    (Span.mk p.source p.offset q.offset).slice =
      .ok ⟨(p.source.text.drop p.offset).take (q.offset - p.offset)⟩ := by
  have hstop : q.offset ≤ p.source.length := by
    rw [← h.source_eq]
    exact h.inBounds
  exact Span.slice_eq_ok ⟨Nat.le_trans h.offset_le hstop, hstop⟩ h.offset_le

theorem reaches_getLastD {later : List Position} (hp : p.InBounds)
    (h : (p :: later).IsChain Reaches) : p.Reaches (later.getLastD p) := by
  induction later generalizing p with
  | nil => exact reaches_self hp
  | cons q later ih =>
    obtain ⟨hq, hlater⟩ := List.isChain_cons_cons.1 h
    rw [List.getLastD_cons]
    exact hq.trans (ih hq.inBounds hlater)

/-- The slices between positions, each reaching the next, make up the slice from the first of them
to the last. -/
theorem slices_of_isChain {later : List Position} (h : (p :: later).IsChain Reaches) :
    ∃ (spans : List Span) (runs : List Run),
      List.zipWith spanToOrHalt (p :: later) later = spans.map .ok ∧
        spans.map Span.slice = runs.map .ok ∧
        runs.flatMap Run.chars =
          (p.source.text.drop p.offset).take ((later.getLastD p).offset - p.offset) := by
  induction later generalizing p with
  | nil => exact ⟨[], [], rfl, rfl, by simp⟩
  | cons q later ih =>
    obtain ⟨hq, hlater⟩ := List.isChain_cons_cons.1 h
    obtain ⟨spans, runs, hspans, hruns, hchars⟩ := ih hlater
    have hlast := reaches_getLastD hq.inBounds hlater
    refine ⟨⟨p.source, p.offset, q.offset⟩ :: spans,
      ⟨(p.source.text.drop p.offset).take (q.offset - p.offset)⟩ :: runs, ?_, ?_, ?_⟩
    · rw [List.zipWith_cons_cons, hq.spanToOrHalt, hspans, List.map_cons]
    · rw [List.map_cons, hq.slice, hruns, List.map_cons]
    · rw [List.flatMap_cons, hchars, List.getLastD_cons, hq.source_eq]
      exact take_drop_append hq.offset_le hlast.offset_le

end Position

namespace Scanner

variable {scanner next : Scanner} {run : Except LocationError Run}

theorem Passes.reaches (h : Passes scanner next run) :
    scanner.position.Reaches next.position :=
  ⟨h.source_eq, h.offset_le, h.inBounds⟩

theorem mark_reaches (h : scanner.InBounds) (moves : List Move) {made more : Nat}
    (hle : made ≤ more) : (scanner.mark moves made).Reaches (scanner.mark moves more) := by
  have htake : moves.take more = moves.take made ++ (moves.drop made).take (more - made) := by
    rw [← List.take_add, Nat.add_sub_cancel' hle]
  have hmade := (passes_after h (moves.take made)).inBounds
  have hpasses := passes_after hmade ((moves.drop made).take (more - made))
  rw [← after_append, ← htake] at hpasses
  exact hpasses.reaches

/-- Moving forward never loses or repeats text: from where a scanner was to where moves have brought
it, the slice is what was read of each of them in turn. Places marked on the way cut this slice
into pieces that make it up. -/
theorem forward_slices (scanner : Scanner) (h : scanner.InBounds) (moves : List Move) :
    let passed : Span := ⟨scanner.source, scanner.offset, (scanner.after moves).offset⟩
    (∀ made more, made ≤ more →
      (scanner.mark moves made).offset ≤ (scanner.mark moves more).offset) ∧
      (scanner.after moves).spanFrom scanner.position = .ok passed ∧
      passed.start ≤ passed.stop ∧
      (∃ run, passed.slice = .ok run ∧ scanner.readAlong moves = .ok run) ∧
      ∀ made times, (made :: times).IsChain (· ≤ ·) →
        let first := scanner.mark moves made
        let later := times.map (scanner.mark moves)
        ∃ (spans : List Span) (runs : List Run) (whole : Span),
          List.zipWith Position.spanToOrHalt (first :: later) later = spans.map .ok ∧
            spans.map Span.slice = runs.map .ok ∧
            first.spanToOrHalt (later.getLastD first) = .ok whole ∧
            whole.slice = .ok ⟨runs.flatMap Run.chars⟩ := by
  intro passed
  have hpasses := passes_after h moves
  refine ⟨fun made more hle => (mark_reaches h moves hle).offset_le, hpasses.spanFrom,
    hpasses.offset_le, ⟨_, hpasses.reaches.slice, hpasses.run_eq⟩, ?_⟩
  intro made times htimes first later
  have hfirst : first.InBounds := (mark_reaches h moves (Nat.le_refl made)).inBounds
  have hmarks : (first :: later).IsChain Position.Reaches :=
    List.isChain_map_of_isChain _ (fun _ _ hle => mark_reaches h moves hle) htimes
  obtain ⟨spans, runs, hspans, hruns, hchars⟩ := Position.slices_of_isChain hmarks
  have hlast := Position.reaches_getLastD hfirst hmarks
  refine ⟨spans, runs, _, hspans, hruns, hlast.spanToOrHalt, ?_⟩
  rw [hlast.slice, hchars]

/-- A word, its number and what is left, with places marked on both sides of the number. -/
theorem forward_slices_word :
    let source : Source := ⟨⟨0⟩, "f", ['a', 'b', '1', '2', 'c']⟩
    let scanner : Scanner := ⟨source, 1⟩
    let moves : List Move :=
      [.skip, .look Scanner.peek, .skipWhile (Test.ofPred Char.isDigit) (),
        .skipN 18446744073709551615]
    scanner.InBounds ∧ ([0, 1, 2, 3, 4] : List Nat).IsChain (· ≤ ·) ∧
      scanner.readAlong moves = .ok ⟨['b', '1', '2', 'c']⟩ ∧
      (Span.mk source 1 5).slice = scanner.readAlong moves ∧
      ∃ (spans : List Span) (runs : List Run),
        List.zipWith Position.spanToOrHalt
            [⟨source, 1⟩, ⟨source, 2⟩, ⟨source, 2⟩, ⟨source, 4⟩, ⟨source, 5⟩]
            [⟨source, 2⟩, ⟨source, 2⟩, ⟨source, 4⟩, ⟨source, 5⟩] = spans.map .ok ∧
          spans.map Span.slice = runs.map .ok ∧
          runs.flatMap Run.chars = ['b', '1', '2', 'c'] := by
  intro source scanner moves
  have h : scanner.InBounds := by decide
  have htimes : ([0, 1, 2, 3, 4] : List Nat).IsChain (· ≤ ·) := by decide
  have hread : scanner.readAlong moves = .ok ⟨['b', '1', '2', 'c']⟩ := rfl
  obtain ⟨_, _, _, ⟨run, hslice, hrun⟩, hmarks⟩ := forward_slices scanner h moves
  obtain ⟨spans, runs, whole, hspans, hruns, hwhole, hchars⟩ := hmarks 0 [1, 2, 3, 4] htimes
  obtain rfl : Span.mk source 1 5 = whole := Except.ok.inj hwhole
  have hall : (Span.mk source 1 5).slice = .ok ⟨['b', '1', '2', 'c']⟩ := rfl
  rw [hall] at hchars
  exact ⟨h, htimes, hread, hslice.trans hrun.symm, spans, runs, hspans, hruns,
    (congrArg Run.chars (Except.ok.inj hchars)).symm⟩

end Scanner

end TextLocation
