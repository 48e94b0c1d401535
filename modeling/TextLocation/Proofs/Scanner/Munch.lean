import Mathlib.Data.List.TakeWhile
import TextLocation.Proofs.Bounds
import TextLocation.Proofs.Scanner.Answers

namespace TextLocation

theorem length_takeWhile_drop {p : Char → Bool} {chars : List Char} {n : Nat}
    (h : n ≤ (chars.takeWhile p).length) :
    ((chars.drop n).takeWhile p).length = (chars.takeWhile p).length - n := by
  induction chars generalizing n with
  | nil => simp
  | cons c chars ih =>
    cases n with
    | zero => rfl
    | succ n =>
      cases hc : p c with
      | false =>
        rw [List.takeWhile_cons_of_neg (by simp [hc])] at h
        cases h
      | true =>
        rw [List.takeWhile_cons_of_pos hc] at h ⊢
        rw [List.drop_succ_cons, ih (Nat.le_of_succ_le_succ h), List.length_cons,
          Nat.succ_sub_succ]

/-- No prefix of accepted characters is longer than the one taken. -/
theorem prefix_takeWhile {p : Char → Bool} {start chars : List Char} (h : start <+: chars)
    (hp : ∀ c ∈ start, p c = true) : start <+: chars.takeWhile p := by
  obtain ⟨rest, rfl⟩ := h
  rw [List.takeWhile_append_of_pos hp]
  exact List.prefix_append ..

namespace Test

variable {σ : Type} {test : Test σ} {state next : σ} {c : Char} {chars : List Char}

/-- The answers to characters in their order, each in the state that the one before has left. -/
def answers (test : Test σ) (state : σ) : List Char → List Bool
  | [] => []
  | c :: rest => (test.step state c).1 :: test.answers (test.step state c).2 rest

/-- The number of answers before the first refusal. -/
def accepted (test : Test σ) (state : σ) (chars : List Char) : Nat :=
  ((test.answers state chars).takeWhile id).length

theorem accepted_cons_accepted (h : test.step state c = (true, next)) :
    test.accepted state (c :: chars) = test.accepted next chars + 1 := by
  rw [accepted, answers, h, List.takeWhile_cons_of_pos rfl, List.length_cons, accepted]

theorem accepted_cons_refused (h : test.step state c = (false, next)) :
    test.accepted state (c :: chars) = 0 := by
  rw [accepted, answers, h, List.takeWhile_cons_of_neg Bool.false_ne_true, List.length_nil]

theorem after_cons (test : Test σ) (state : σ) (c : Char) (seen : List Char) :
    test.after state (c :: seen) = test.after (test.step state c).2 seen :=
  rfl

theorem after_append (test : Test σ) (state : σ) (seen more : List Char) :
    test.after state (seen ++ more) = test.after (test.after state seen) more :=
  List.foldl_append

/-- A run ends at the first refusal, which is the last answer that changes the state. -/
theorem run_eq (test : Test σ) (state : σ) (chars : List Char) :
    test.run state chars =
      (test.accepted state chars,
        test.after state (chars.take (test.accepted state chars + 1))) := by
  induction chars generalizing state with
  | nil => rfl
  | cons c chars ih =>
    cases hstep : test.step state c with
    | mk answer next =>
      cases answer with
      | false =>
        rw [run_cons_refused hstep, accepted_cons_refused hstep, List.take_succ_cons, after_cons,
          hstep, List.take_zero]
        rfl
      | true =>
        rw [run_cons_accepted hstep, accepted_cons_accepted hstep, List.take_succ_cons, after_cons,
          hstep, ih next]

theorem answers_recorded (test : Test σ) (state : σ) (seen : Array Char) (chars : List Char) :
    test.recorded.answers (state, seen) chars = test.answers state chars := by
  induction chars generalizing state seen with
  | nil => rfl
  | cons c chars ih =>
    rw [answers, answers]
    exact congrArg _ (ih _ _)

theorem accepted_recorded (test : Test σ) (state : σ) (seen : Array Char) (chars : List Char) :
    test.recorded.accepted (state, seen) chars = test.accepted state chars := by
  rw [accepted, answers_recorded, accepted]

theorem after_recorded (test : Test σ) (state : σ) (seen : Array Char) (chars : List Char) :
    test.recorded.after (state, seen) chars =
      (test.after state chars, seen ++ chars.toArray) := by
  induction chars generalizing state seen with
  | nil => simp [after]
  | cons c chars ih =>
    have hstep : (test.recorded.step (state, seen) c).2 = ((test.step state c).2, seen.push c) :=
      rfl
    rw [after_cons, hstep, ih, after_cons, List.push_append_toArray]

/-- A test without memory gives to each character the answer that it would give first. -/
theorem Stateless.answers_eq (h : test.Stateless state) (seen chars : List Char) :
    test.answers (test.after state seen) chars = chars.map (test.answer state []) := by
  induction chars generalizing seen with
  | nil => rfl
  | cons c chars ih =>
    have hnext : (test.step (test.after state seen) c).2 = test.after state (seen ++ [c]) :=
      (after_append test state seen [c]).symm
    rw [answers, hnext, ih, List.map_cons, ← h seen c]
    rfl

theorem Stateless.accepted_eq (h : test.Stateless state) (seen chars : List Char) :
    test.accepted (test.after state seen) chars =
      (chars.takeWhile (test.answer state [])).length := by
  rw [accepted, h.answers_eq, List.takeWhile_map, List.length_map]
  rfl

end Test

namespace Scanner

variable {σ : Type} {test : Test σ} {scanner last : Scanner} {state next final : σ} {c : Char}
  {asked : List Char}

/-- The loop that passes what a test accepts. The character ahead is looked at; if there is one, the
test is asked about it, and only if it accepts does the scanner move on. `asked` are the characters
that the test was asked about. -/
inductive Munches (test : Test σ) : Scanner → σ → List Char → Scanner → σ → Prop
  | atEnd {scanner : Scanner} {state : σ} (h : scanner.peek = none) :
      Munches test scanner state [] scanner state
  | refused {scanner : Scanner} {state next : σ} {c : Char} (h : scanner.peek = some c)
      (answer : test.step state c = (false, next)) : Munches test scanner state [c] scanner next
  | accepted {scanner last : Scanner} {state next final : σ} {c : Char} {asked : List Char}
      (h : scanner.peek = some c) (answer : test.step state c = (true, next))
      (later : Munches test ⟨scanner.source, scanner.offset + 1⟩ next asked last final) :
      Munches test scanner state (c :: asked) last final

theorem peek_eq_head? (scanner : Scanner) : scanner.peek = scanner.rest.head? :=
  List.head?_drop.symm

theorem rest_eq_nil (h : scanner.peek = none) : scanner.rest = [] := by
  rwa [peek_eq_head?, List.head?_eq_none_iff] at h

theorem rest_eq_cons (h : scanner.peek = some c) :
    scanner.rest = c :: Scanner.rest ⟨scanner.source, scanner.offset + 1⟩ := by
  obtain ⟨hlt, rfl⟩ := List.getElem?_eq_some_iff.1 h
  exact List.drop_eq_getElem_cons hlt

theorem skipWhile_eq (scanner : Scanner) (test : Test σ) (state : σ) :
    scanner.skipWhile test state =
      let stop := scanner.offset + test.accepted state scanner.rest
      { span := ⟨scanner.source, scanner.offset, stop⟩
        scanner := ⟨scanner.source, stop⟩
        state := test.after state (scanner.rest.take (test.accepted state scanner.rest + 1)) } := by
  rw [skipWhile, Test.run_eq]

theorem skipWhile_of_accepted (h : scanner.peek = some c)
    (answer : test.step state c = (true, next)) :
    let later := Scanner.skipWhile ⟨scanner.source, scanner.offset + 1⟩ test next
    (scanner.skipWhile test state).scanner = later.scanner ∧
      (scanner.skipWhile test state).state = later.state := by
  simp only [skipWhile, rest_eq_cons h, Test.run_cons_accepted answer, Nat.add_assoc,
    Nat.add_comm 1, and_self]

theorem Munches.eq_skipWhile (h : Munches test scanner state asked last final) :
    asked = scanner.rest.take (test.accepted state scanner.rest + 1) ∧
      last = (scanner.skipWhile test state).scanner ∧
      final = (scanner.skipWhile test state).state := by
  induction h with
  | atEnd h => simp [skipWhile, rest_eq_nil h]
  | refused h answer =>
    simp [skipWhile, rest_eq_cons h, Test.run_cons_refused answer,
      Test.accepted_cons_refused answer]
  | accepted h answer later ih =>
    obtain ⟨hasked, hlast, hfinal⟩ := ih
    obtain ⟨hscanner, hstate⟩ := skipWhile_of_accepted h answer
    refine ⟨?_, hlast.trans hscanner.symm, hfinal.trans hstate.symm⟩
    rw [rest_eq_cons h, Test.accepted_cons_accepted answer, List.take_succ_cons, hasked]

theorem exists_munches (scanner : Scanner) (test : Test σ) (state : σ) :
    ∃ asked last final, Munches test scanner state asked last final := by
  -- Each character that is accepted leaves one less ahead.
  induction hrest : scanner.rest generalizing scanner state with
  | nil => exact ⟨_, _, _, .atEnd (by rw [peek_eq_head?, hrest, List.head?_nil])⟩
  | cons c rest ih =>
    have hpeek : scanner.peek = some c := by rw [peek_eq_head?, hrest, List.head?_cons]
    have hlater : Scanner.rest ⟨scanner.source, scanner.offset + 1⟩ = rest := by
      rw [rest_eq_cons hpeek] at hrest
      exact (List.cons.inj hrest).2
    cases hstep : test.step state c with
    | mk answer next =>
      cases answer with
      | false => exact ⟨_, _, _, .refused hpeek hstep⟩
      | true =>
        obtain ⟨asked, last, final, h⟩ := ih _ next hlater
        exact ⟨_, _, _, .accepted hpeek hstep h⟩

/-- The loop ends, and what it comes to is what `skipWhile` gives. -/
theorem munches_iff :
    Munches test scanner state asked last final ↔
      asked = scanner.rest.take (test.accepted state scanner.rest + 1) ∧
        last = (scanner.skipWhile test state).scanner ∧
        final = (scanner.skipWhile test state).state := by
  constructor
  · exact fun h => h.eq_skipWhile
  · rintro ⟨rfl, rfl, rfl⟩
    obtain ⟨asked, last, final, h⟩ := exists_munches scanner test state
    obtain ⟨rfl, rfl, rfl⟩ := h.eq_skipWhile
    exact h

theorem accepted_le (h : scanner.InBounds) (test : Test σ) (state : σ) :
    scanner.offset + test.accepted state scanner.rest ≤ scanner.source.length := by
  have hle := h.run_le test state
  rwa [Test.run_eq] at hle

/-- From anywhere in what a test without memory passes, it passes the rest of it and stops there. -/
theorem skipWhile_within (hs : test.Stateless state) (seen : List Char) {n : Nat}
    (hn : n ≤ test.accepted state scanner.rest) :
    let skipped :=
      Scanner.skipWhile ⟨scanner.source, scanner.offset + n⟩ test (test.after state seen)
    let stop := scanner.offset + test.accepted state scanner.rest
    skipped.span = ⟨scanner.source, scanner.offset + n, stop⟩ ∧
      skipped.scanner = ⟨scanner.source, stop⟩ := by
  have hrest : Scanner.rest ⟨scanner.source, scanner.offset + n⟩ = scanner.rest.drop n :=
    (List.drop_drop ..).symm
  have hfirst : test.accepted state scanner.rest =
      (scanner.rest.takeWhile (test.answer state [])).length := hs.accepted_eq [] scanner.rest
  have hlater : test.accepted (test.after state seen) (scanner.rest.drop n) =
      test.accepted state scanner.rest - n := by
    rw [hs.accepted_eq, hfirst, length_takeWhile_drop (hfirst ▸ hn)]
  have hstop : scanner.offset + n + (test.accepted state scanner.rest - n) =
      scanner.offset + test.accepted state scanner.rest := by
    rw [Nat.add_assoc, Nat.add_sub_cancel' hn]
  rw [skipWhile_eq, hrest, hlater]
  simp only [hstop, and_self]

theorem slice_skipWhile (h : scanner.InBounds) (hs : test.Stateless state) :
    (scanner.skipWhile test state).span.slice =
      .ok ⟨scanner.rest.takeWhile (test.answer state [])⟩ := by
  have hcount : test.accepted state scanner.rest =
      (scanner.rest.takeWhile (test.answer state [])).length := hs.accepted_eq [] scanner.rest
  have htake := List.prefix_iff_eq_take.1 (List.takeWhile_prefix (test.answer state [])
    (l := scanner.rest))
  rw [skipWhile_eq, slice_ahead (accepted_le h test state), hcount, ← htake]

theorem length_asked (h : scanner.InBounds) (test : Test σ) (state : σ) :
    let count := test.accepted state scanner.rest
    (scanner.rest.take (count + 1)).length =
      if scanner.offset + count = scanner.source.length then count else count + 1 := by
  have hle := accepted_le h test state
  intro count
  rw [List.length_take, length_rest, remaining]
  split <;> omega

/-- How a test is asked that accepts `count` of the characters ahead: about each in turn, up to the
first that it refuses or the last of the text, and never twice. What is passed ends before the
refused one. With a test without memory it is the longest start of the text ahead that is accepted,
and passing again from within it ends at the same place. -/
structure Asks (test : Test σ) (state : σ) (scanner : Scanner) (count : Nat) (asked : List Char)
    (skipped : Skipped σ) : Prop where
  munches_iff : ∀ calls last final, Munches test scanner state calls last final ↔
    calls = asked ∧ last = skipped.scanner ∧ final = skipped.state
  span_eq : skipped.span = ⟨scanner.source, scanner.offset, scanner.offset + count⟩
  scanner_eq : skipped.scanner = ⟨scanner.source, scanner.offset + count⟩
  stop_le : scanner.offset + count ≤ scanner.source.length
  length_asked : asked.length =
    if scanner.offset + count = scanner.source.length then count else count + 1
  state_eq : skipped.state = test.after state asked
  recorded : (scanner.skipWhile test.recorded (state, #[])).state = (skipped.state, asked.toArray)
  longest : test.Stateless state → ∃ run, skipped.span.slice = .ok run ∧
    run.chars <+: scanner.rest ∧ (∀ c ∈ run.chars, test.answer state [] c = true) ∧
    ∀ start, start <+: scanner.rest → (∀ c ∈ start, test.answer state [] c = true) →
      start <+: run.chars
  again : test.Stateless state → ∀ seen,
    (skipped.scanner.skipWhile test (test.after state seen)).span =
      ⟨scanner.source, scanner.offset + count, scanner.offset + count⟩
  within : test.Stateless state → ∀ seen n, n ≤ count →
    scanner.skipN n = ⟨scanner.source, scanner.offset + n⟩ ∧
      ((scanner.skipN n).skipWhile test (test.after state seen)).scanner = skipped.scanner

theorem skipWhile_asks (scanner : Scanner) (h : scanner.InBounds) (test : Test σ) (state : σ) :
    let count := test.accepted state scanner.rest
    let asked := scanner.rest.take (count + 1)
    Asks test state scanner count asked (scanner.skipWhile test state) := by
  intro count asked
  have hskipped := skipWhile_eq scanner test state
  have hstop : scanner.offset + count ≤ scanner.source.length := accepted_le h test state
  constructor
  case munches_iff => exact fun _ _ _ => munches_iff
  case span_eq => rw [hskipped]
  case scanner_eq => rw [hskipped]
  case stop_le => exact hstop
  case length_asked => exact length_asked h test state
  case state_eq => rw [hskipped]
  case recorded =>
    rw [hskipped, skipWhile_eq, Test.accepted_recorded, Test.after_recorded, Array.empty_append]
  case longest =>
    intro hs
    refine ⟨_, slice_skipWhile h hs, List.takeWhile_prefix _, ?_, ?_⟩
    · exact fun c hc => List.mem_takeWhile_imp hc
    · exact fun start hstart hall => prefix_takeWhile hstart hall
  case again =>
    intro hs seen
    rw [hskipped]
    exact (skipWhile_within hs seen (Nat.le_refl count)).1
  case within =>
    intro hs seen n hn
    have hn' : scanner.skipN n = ⟨scanner.source, scanner.offset + n⟩ :=
      skipN_eq (Nat.le_trans (Nat.add_le_add_left hn _) hstop)
    refine ⟨hn', ?_⟩
    rw [hn', hskipped]
    exact (skipWhile_within hs seen hn).2

/-- Two characters are passed and a third is asked about, unless the text is over. Digits are passed
once and for all. -/
theorem skipWhile_asks_number :
    let source : Source := ⟨⟨0⟩, "f", ['1', '2', 'a']⟩
    let digits : Rule := .ofClass .asciiDigit
    Scanner.InBounds ⟨source, 0⟩ ∧ Scanner.InBounds ⟨source, 1⟩ ∧ Rule.test.Stateless digits ∧
      Munches Rule.test ⟨source, 0⟩ (.first 2) ['1', '2', 'a'] ⟨source, 2⟩ (.first 0) ∧
      Munches Rule.test ⟨source, 1⟩ (.first 2) ['2', 'a'] ⟨source, 3⟩ (.first 0) ∧
      (∃ run, (Span.mk source 0 2).slice = .ok run ∧ ∀ start, start <+: ['1', '2', 'a'] →
        (∀ c ∈ start, Rule.test.answer digits [] c = true) → start <+: run.chars) ∧
      (Scanner.skipWhile ⟨source, 2⟩ Rule.test digits).span = ⟨source, 2, 2⟩ := by
  intro source digits
  have h : Scanner.InBounds ⟨source, 0⟩ := by decide
  have h' : Scanner.InBounds ⟨source, 1⟩ := by decide
  have hs : Rule.test.Stateless digits := Rule.stateless_ofClass .asciiDigit
  have hfirst := (skipWhile_asks _ h Rule.test (.first 2)).munches_iff
  have hlast := (skipWhile_asks _ h' Rule.test (.first 2)).munches_iff
  have hdigits := skipWhile_asks _ h Rule.test digits
  obtain ⟨run, hslice, _, _, hlongest⟩ := hdigits.longest hs
  exact ⟨h, h', hs, (hfirst _ _ _).2 ⟨rfl, rfl, rfl⟩, (hlast _ _ _).2 ⟨rfl, rfl, rfl⟩,
    ⟨run, hslice, hlongest⟩, hdigits.again hs []⟩

end Scanner

end TextLocation
