import TextLocation.Proofs.Scanner.Munch
import TextLocation.Proofs.Scanner.Rounds
import TextLocation.Proofs.Word.Snippet

namespace TextLocation.Word

/-- A scanner whose offset is a word, over a text that fits. -/
structure Reader where
  source : Source
  fits : Fits source.text
  offset : UInt64

/-- What a reader has passed, where it has come to, and the state in which the test was left. -/
structure Passed (σ : Type) where
  stretch : Stretch
  reader : Reader
  state : σ

def Reader.toScanner (reader : Reader) : Scanner := ⟨reader.source, reader.offset.toNat⟩

def Passed.toSkipped {σ : Type} (passed : Passed σ) : Skipped σ :=
  ⟨passed.stretch.toSpan, passed.reader.toScanner, passed.state⟩

namespace Reader

variable {σ : Type} {reader next : Reader} {c : Char}

def isEnd (reader : Reader) : Bool := reader.offset == lengthOf reader.source.text

def remaining (overflow : Overflow) (reader : Reader) : Except Fault UInt64 :=
  difference overflow (lengthOf reader.source.text) reader.offset

def peek (reader : Reader) : Option Char := reader.source.text[reader.offset.toNat]?

/-- The next `count` characters. Where they stop is added up only if there are as many. -/
def peekRun (overflow : Overflow) (reader : Reader) (count : UInt64) :
    Except Fault (Except LocationError Run) := do
  let remaining ← reader.remaining overflow
  if remaining < count then
    return .error (.peekPastEnd count.toNat remaining.toNat)
  else
    let stop ← sum overflow reader.offset count
    return reader.source.slice reader.offset.toNat stop.toNat

/-- Moves on by one. -/
def advance (overflow : Overflow) (reader : Reader) : Except Fault Reader := do
  let offset ← sum overflow reader.offset 1
  return { reader with offset }

def skip (overflow : Overflow) (reader : Reader) : Except Fault Reader :=
  if reader.offset < lengthOf reader.source.text then reader.advance overflow else .ok reader

def skipN (reader : Reader) (count : UInt64) : Reader :=
  { reader with
    offset := min (saturatingAdd reader.offset count) (lengthOf reader.source.text) }

theorem offset_lt_of_peek (h : reader.peek = some c) :
    reader.offset.toNat < reader.source.length := by
  obtain ⟨hlt, _⟩ := List.getElem?_eq_some_iff.1 h
  exact hlt

theorem returns_advance (overflow : Overflow)
    (h : reader.offset.toNat < reader.source.length) :
    Returns (reader.advance overflow) fun next =>
      next.toScanner = ⟨reader.source, reader.offset.toNat + 1⟩ := by
  have hlength : reader.source.length < UInt64.size := reader.fits.length_lt
  apply (returns_sum_one overflow (by omega)).bind
  intro offset hoffset
  exact .ok (congrArg (Scanner.mk reader.source) hoffset)

theorem remaining_advance_lt {overflow : Overflow} (h : reader.peek = some c)
    (hnext : reader.advance overflow = .ok next) :
    next.toScanner.remaining < reader.toScanner.remaining := by
  have hlt := offset_lt_of_peek h
  obtain ⟨there, hthere, hscanner⟩ := returns_advance overflow hlt
  cases hthere.symm.trans hnext
  rw [hscanner]
  exact Nat.sub_succ_lt_self _ _ hlt

/-- Looks at the character ahead and moves past it, as long as there is one and the test accepts
it. -/
def passWhile (overflow : Overflow) (test : Test σ) (reader : Reader) (state : σ) :
    Except Fault (Reader × σ) :=
  match _ : reader.peek with
  | none => .ok (reader, state)
  | some c =>
    match test.step state c with
    | (false, final) => .ok (reader, final)
    | (true, later) =>
      match _ : reader.advance overflow with
      | .ok next => passWhile overflow test next later
      | .error fault => .error fault
termination_by reader.toScanner.remaining
decreasing_by exact remaining_advance_lt ‹_› ‹_›

def skipWhile (overflow : Overflow) (reader : Reader) (test : Test σ) (state : σ) :
    Except Fault (Passed σ) := do
  let (last, final) ← reader.passWhile overflow test state
  return ⟨⟨reader.source, reader.offset, last.offset⟩, last, final⟩

def charSpan (overflow : Overflow) (reader : Reader) : Except Fault Stretch := do
  let stop ← if reader.isEnd then .ok reader.offset else sum overflow reader.offset 1
  return ⟨reader.source, reader.offset, stop⟩

theorem toNat_length (reader : Reader) :
    (lengthOf reader.source.text).toNat = reader.source.length :=
  reader.fits.toNat_lengthOf

theorem isEnd_toScanner (reader : Reader) : reader.toScanner.isEnd = reader.isEnd := by
  rw [Bool.eq_iff_iff, isEnd, Scanner.isEnd, beq_iff_eq, beq_iff_eq, ← UInt64.toNat_inj,
    reader.toNat_length]
  rfl

theorem returns_remaining (h : reader.toScanner.InBounds) (overflow : Overflow) :
    Returns (reader.remaining overflow) fun count => count.toNat = reader.toScanner.remaining := by
  have hlength := reader.toNat_length
  apply (returns_difference overflow (by rwa [hlength])).mono
  intro count hcount
  rw [hcount, hlength]
  rfl

theorem returns_peekRun (h : reader.toScanner.InBounds) (overflow : Overflow) (count : UInt64) :
    Returns (reader.peekRun overflow count) fun read =>
      read = reader.toScanner.peekRun count.toNat := by
  apply (returns_remaining h overflow).bind
  intro remaining hremaining
  have hlt : remaining < count ↔ ¬ count.toNat ≤ reader.toScanner.remaining := by
    rw [UInt64.lt_iff_toNat_lt, hremaining, Nat.not_le]
  by_cases hle : count.toNat ≤ reader.toScanner.remaining
  · rw [if_neg (hlt.not.2 (not_not_intro hle)), Scanner.peekRun, if_pos hle]
    have hstop := Scanner.add_le_of_le_remaining h hle
    apply (returns_sum overflow (Nat.lt_of_le_of_lt hstop reader.fits.length_lt)).bind
    intro stop hsum
    rw [hsum]
    exact .ok rfl
  · rw [if_pos (hlt.2 hle), Scanner.peekRun, if_neg hle, hremaining]
    exact .ok rfl

theorem returns_skip (reader : Reader) (overflow : Overflow) :
    Returns (reader.skip overflow) fun next => next.toScanner = reader.toScanner.skip := by
  have hlt : reader.offset < lengthOf reader.source.text ↔
      reader.toScanner.offset < reader.toScanner.source.length := by
    rw [UInt64.lt_iff_toNat_lt, reader.toNat_length]
    rfl
  rw [skip, Scanner.skip]
  simp only [hlt]
  split
  · next h => exact returns_advance overflow h
  · exact .ok rfl

theorem toScanner_skipN (reader : Reader) (count : UInt64) :
    (reader.skipN count).toScanner = reader.toScanner.skipN count.toNat := by
  have hoffset : (reader.skipN count).offset.toNat =
      min (reader.offset.toNat + count.toNat) reader.source.length := by
    have hle : reader.source.length < UInt64.size := reader.fits.length_lt
    rw [skipN, UInt64.toNat_min, toNat_saturatingAdd, reader.toNat_length]
    omega
  exact congrArg (Scanner.mk reader.source) hoffset

theorem passWhile_atEnd (h : reader.peek = none) (overflow : Overflow) (test : Test σ)
    (state : σ) : reader.passWhile overflow test state = .ok (reader, state) := by
  rw [passWhile]
  split
  · rfl
  · next hc => cases h.symm.trans hc

theorem passWhile_refused {test : Test σ} {state final : σ} (h : reader.peek = some c)
    (answer : test.step state c = (false, final)) (overflow : Overflow) :
    reader.passWhile overflow test state = .ok (reader, final) := by
  rw [passWhile]
  split
  · next hc => cases h.symm.trans hc
  · next hc =>
    cases h.symm.trans hc
    rw [answer]

theorem passWhile_accepted {test : Test σ} {state later : σ} (h : reader.peek = some c)
    (answer : test.step state c = (true, later)) (overflow : Overflow) :
    reader.passWhile overflow test state =
      reader.advance overflow >>= fun next => next.passWhile overflow test later := by
  rw [passWhile]
  split
  · next hc => cases h.symm.trans hc
  · next hc =>
    cases h.symm.trans hc
    rw [answer]
    simp only
    split
    · next hnext => rw [hnext]; rfl
    · next hnext => rw [hnext]; rfl

theorem returns_passWhile {scanner last : Scanner} {test : Test σ} {state final : σ}
    {asked : List Char} (h : Scanner.Munches test scanner state asked last final)
    (overflow : Overflow) (hreader : reader.toScanner = scanner) :
    Returns (reader.passWhile overflow test state) fun passed =>
      passed.1.toScanner = last ∧ passed.2 = final := by
  -- The rounds are those of the loop over numbers, so the induction is on how that one goes.
  induction h generalizing reader with
  | atEnd h =>
    subst hreader
    rw [passWhile_atEnd h]
    exact .ok ⟨rfl, rfl⟩
  | refused h answer =>
    subst hreader
    rw [passWhile_refused h answer]
    exact .ok ⟨rfl, rfl⟩
  | accepted h answer later ih =>
    subst hreader
    rw [passWhile_accepted h answer]
    apply (returns_advance overflow (offset_lt_of_peek h)).bind
    intro next hnext
    exact ih hnext

theorem returns_skipWhile (reader : Reader) (overflow : Overflow) (test : Test σ) (state : σ) :
    Returns (reader.skipWhile overflow test state) fun passed =>
      passed.toSkipped = reader.toScanner.skipWhile test state := by
  obtain ⟨asked, last, final, hmunches⟩ := Scanner.exists_munches reader.toScanner test state
  obtain ⟨_, rfl, rfl⟩ := hmunches.eq_skipWhile
  apply (returns_passWhile hmunches overflow rfl).bind
  rintro ⟨there, left⟩ ⟨hthere, rfl⟩
  apply Returns.ok
  have hoffset : there.offset.toNat = _ := congrArg Scanner.offset hthere
  rw [Passed.toSkipped, hthere, Stretch.toSpan, hoffset]
  rfl

theorem returns_charSpan (h : reader.toScanner.InBounds) (overflow : Overflow) :
    Returns (reader.charSpan overflow) fun stretch =>
      stretch.toSpan = reader.toScanner.charSpan := by
  have hend := reader.isEnd_toScanner
  cases hcase : reader.isEnd with
  | true =>
    rw [charSpan, hcase, Scanner.charSpan, hend, hcase]
    exact .ok rfl
  | false =>
    have hlt := Scanner.lt_length_of_isEnd h (hend.trans hcase)
    have hsize : reader.offset.toNat + 1 < UInt64.size :=
      Nat.lt_of_le_of_lt hlt reader.fits.length_lt
    rw [charSpan, hcase, Scanner.charSpan_of_lt hlt]
    apply (returns_sum_one overflow hsize).bind
    intro stop hstop
    exact .ok (congrArg (Span.mk reader.source reader.offset.toNat) hstop)

end Reader

end TextLocation.Word
