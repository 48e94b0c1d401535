namespace TextLocation

/-- A test that is put to one character after another. Its answer may depend on a state, which
each answer may change. -/
structure Test (σ : Type) where
  step : σ → Char → Bool × σ

namespace Test

variable {σ : Type}

/-- A test without memory. -/
def ofPred (p : Char → Bool) : Test Unit := ⟨fun _ c => (p c, ())⟩

/-- Puts the test to the characters in order until it refuses one. `accepted` counts those it has
accepted so far. -/
def runFrom (test : Test σ) (accepted : Nat) (state : σ) : List Char → Nat × σ
  | [] => (accepted, state)
  | c :: rest =>
    match test.step state c with
    | (true, next) => test.runFrom (accepted + 1) next rest
    | (false, next) => (accepted, next)

/-- The number of characters accepted before the first refusal, and the state left behind. -/
def run (test : Test σ) (state : σ) (chars : List Char) : Nat × σ := test.runFrom 0 state chars

/-- The same test, with a record of the characters it was put to. -/
def recorded (test : Test σ) : Test (σ × Array Char) where
  step state c :=
    let (answer, next) := test.step state.1 c
    (answer, next, state.2.push c)

theorem runFrom_eq (test : Test σ) (accepted : Nat) (state : σ) (chars : List Char) :
    test.runFrom accepted state chars =
      (accepted + (test.run state chars).1, (test.run state chars).2) := by
  induction chars generalizing accepted state with
  | nil => rfl
  | cons c rest ih =>
    simp only [runFrom, run]
    cases h : test.step state c with
    | mk answer next =>
      cases answer with
      | false => rfl
      | true =>
        simp only
        rw [ih, ih (0 + 1)]
        simp only [Prod.mk.injEq, and_true]
        omega

@[simp] theorem run_nil (test : Test σ) (state : σ) : test.run state [] = (0, state) := rfl

theorem run_cons_accepted {test : Test σ} {state next : σ} {c : Char}
    (h : test.step state c = (true, next)) (rest : List Char) :
    test.run state (c :: rest) = ((test.run next rest).1 + 1, (test.run next rest).2) := by
  simp only [run, runFrom, h]
  rw [runFrom_eq]
  simp only [run, Prod.mk.injEq, and_true]
  omega

theorem run_cons_refused {test : Test σ} {state next : σ} {c : Char}
    (h : test.step state c = (false, next)) (rest : List Char) :
    test.run state (c :: rest) = (0, next) := by
  simp only [run, runFrom, h]

theorem run_le_length (test : Test σ) (state : σ) (chars : List Char) :
    (test.run state chars).1 ≤ chars.length := by
  induction chars generalizing state with
  | nil => exact Nat.le_refl 0
  | cons c rest ih =>
    cases h : test.step state c with
    | mk answer next =>
      cases answer with
      | false => simp [run_cons_refused h]
      | true => simpa [run_cons_accepted h] using ih next

end Test

end TextLocation
