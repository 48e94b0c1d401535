import TextLocation.Scanner.Rule

namespace TextLocation

namespace Test

variable {σ : Type} {test : Test σ} {state : σ} {chars : List Char} {c : Char}

/-- The state in which some characters leave a test. -/
def after (test : Test σ) (state : σ) (seen : List Char) : σ :=
  seen.foldl (fun state c => (test.step state c).2) state

/-- The answer to a character that is met after some others. -/
def answer (test : Test σ) (state : σ) (seen : List Char) (c : Char) : Bool :=
  (test.step (test.after state seen) c).1

/-- What was met before a character makes no difference to the answer. -/
def Stateless (test : Test σ) (state : σ) : Prop :=
  ∀ seen c, test.answer state seen c = test.answer state [] c

theorem answer_cons (test : Test σ) (state : σ) (d : Char) (seen : List Char) (c : Char) :
    test.answer state (d :: seen) c = test.answer (test.step state d).2 seen c :=
  rfl

/-- A test accepts the characters that it passes and refuses the next. -/
theorem answer_eq {i : Nat} (h : i ≤ (test.run state chars).1) (hc : chars[i]? = some c) :
    test.answer state (chars.take i) c = decide (i < (test.run state chars).1) := by
  induction chars generalizing state i with
  | nil => cases hc
  | cons d rest ih =>
    cases hstep : test.step state d with
    | mk accepted next =>
      have hfirst : test.answer state [] d = accepted := congrArg Prod.fst hstep
      cases accepted with
      | false =>
        rw [run_cons_refused hstep] at h ⊢
        obtain rfl : i = 0 := Nat.le_zero.1 h
        obtain rfl : d = c := Option.some.inj hc
        exact hfirst
      | true =>
        rw [run_cons_accepted hstep] at h ⊢
        cases i with
        | zero =>
          obtain rfl : d = c := Option.some.inj hc
          simpa using hfirst
        | succ i =>
          have hrest := ih (Nat.le_of_succ_le_succ h) hc
          rw [List.take_succ_cons, answer_cons, hstep, hrest]
          simp only [Nat.add_lt_add_iff_right]

end Test

namespace Rule

theorem after_ofClass (cls : CharClass) (seen : List Char) :
    test.after (.ofClass cls) seen = .ofClass cls := by
  induction seen with
  | nil => rfl
  | cons c seen ih => exact ih

theorem stateless_ofClass (cls : CharClass) : test.Stateless (.ofClass cls) := by
  intro seen c
  rw [Test.answer, after_ofClass, Test.answer]
  rfl

end Rule

end TextLocation
