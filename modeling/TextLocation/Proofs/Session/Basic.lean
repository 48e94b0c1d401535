import TextLocation.Proofs.Bounds

namespace TextLocation

/-- All that has been obtained by calls so far, in the order of obtaining. -/
structure Session where
  library : Library
  positions : List Position
  spans : List Span
  scanners : List Scanner

/-- A call, on values named by their numbers in the session. -/
inductive Call : Type 1 where
  | addSource (name text : String)
  | scanner (source : Nat)
  | position (source offset : Nat)
  | span (source start stop : Nat)
  | spanOrHalt (source start stop : Nat)
  | spanToPosition (start stop : Nat)
  | spanToPositionOrHalt (start stop : Nat)
  | startPosition (span : Nat)
  | stopPosition (span : Nat)
  | spanTo (first last : Nat)
  | spanToOrHalt (first last : Nat)
  | copy (scanner : Nat)
  | skip (scanner : Nat)
  | skipN (scanner count : Nat)
  | skipWhile {σ : Type} (scanner : Nat) (test : Test σ) (state : σ)
  | moveTo (scanner position : Nat)
  | scannerPosition (scanner : Nat)
  | charSpan (scanner : Nat)
  | spanFrom (scanner start : Nat)
  | spanBetween (scanner start stop : Nat)

def Call.addsSource : Call → Bool
  | addSource .. => true
  | _ => false

/-- Why a call gives nothing. It is absent when it names a value that has not been obtained, and out
of bounds when it would build a position or span outside its source. -/
inductive Failure where
  | absent
  | refused (error : LocationError)
  | halted (halt : Halt)
  | outOfBounds
  deriving DecidableEq

namespace Session

def empty : Session := ⟨.empty, [], [], []⟩

def sources (session : Session) : List Source := session.library.sources

def withSource (session : Session) (name text : String) : Session :=
  { session with library := session.library.add name text }

def withPosition (session : Session) (p : Position) : Session :=
  { session with positions := session.positions ++ [p] }

def withSpan (session : Session) (span : Span) : Session :=
  { session with spans := session.spans ++ [span] }

def withScanner (session : Session) (scanner : Scanner) : Session :=
  { session with scanners := session.scanners ++ [scanner] }

/-- A scanner in the place of the one of this number. -/
def withScannerAt (session : Session) (number : Nat) (scanner : Scanner) : Session :=
  { session with scanners := session.scanners.set number scanner }

end Session

/-- What is done in the course of calls. The session stays as it is left, also by a failure. -/
abbrev Calling := EStateM Failure Session

namespace Calling

variable {α : Type}

def obtained (values : Session → List α) (number : Nat) : Calling α := do
  match (values (← get))[number]? with
  | some a => return a
  | none => throw .absent

theorem run_obtained (values : Session → List α) (number : Nat) (session : Session) :
    (obtained values number).run session =
      match (values session)[number]? with
      | some a => .ok a session
      | none => .error .absent session := by
  rw [obtained, EStateM.run_bind, EStateM.run_get]
  dsimp only
  cases (values session)[number]? with
  | some a => rfl
  | none => rfl

def orRefused (result : Except LocationError α) : Calling α :=
  MonadExcept.ofExcept (result.mapError .refused)

def orHalted (result : Except Halt α) : Calling α :=
  MonadExcept.ofExcept (result.mapError .halted)

def asserted (inBounds : Prop) [Decidable inBounds] : Calling Unit :=
  if inBounds then pure () else throw .outOfBounds

/-- Builds a position, having asserted that it is in bounds. -/
def keepPosition (p : Position) : Calling Unit := do
  asserted p.InBounds
  modify (·.withPosition p)

def keepSpan (span : Span) : Calling Unit := do
  asserted span.InBounds
  modify (·.withSpan span)

/-- A scanner stays where a move has left it, also when the move halts. -/
def moved (number : Nat) (move : EStateM Halt Scanner Unit) : Calling Unit := do
  match move.run (← obtained Session.scanners number) with
  | .ok _ scanner => modify (·.withScannerAt number scanner)
  | .error halt scanner =>
    modify (·.withScannerAt number scanner)
    throw (.halted halt)

end Calling

namespace Session

open Calling

/-- Positions and spans are built under assertion, also those that a call builds on the way to its
result. -/
def perform : Call → Calling Unit
  | .addSource name text => modify (·.withSource name text)
  | .scanner source => do
    let source ← obtained sources source
    modify (·.withScanner source.scanner)
  | .position source offset => do
    let source ← obtained sources source
    keepPosition (← orRefused (source.position offset))
  | .span source start stop => do
    let source ← obtained sources source
    let start ← obtained positions start
    let stop ← obtained positions stop
    keepSpan (← orRefused (source.span start stop))
  | .spanOrHalt source start stop => do
    let source ← obtained sources source
    let start ← obtained positions start
    let stop ← obtained positions stop
    keepSpan (← orHalted (source.spanOrHalt start stop))
  | .spanToPosition start stop => do
    let start ← obtained positions start
    let stop ← obtained positions stop
    keepSpan (← orRefused (start.spanTo stop))
  | .spanToPositionOrHalt start stop => do
    let start ← obtained positions start
    let stop ← obtained positions stop
    keepSpan (← orHalted (start.spanToOrHalt stop))
  | .startPosition span => do
    keepPosition (← obtained spans span).startPosition
  | .stopPosition span => do
    keepPosition (← obtained spans span).stopPosition
  | .spanTo first last => do
    let first ← obtained spans first
    let last ← obtained spans last
    asserted last.stopPosition.InBounds
    keepSpan (← orRefused (first.spanTo last))
  | .spanToOrHalt first last => do
    let first ← obtained spans first
    let last ← obtained spans last
    asserted last.stopPosition.InBounds
    keepSpan (← orHalted (first.spanToOrHalt last))
  | .copy scanner => do
    let scanner ← obtained scanners scanner
    modify (·.withScanner scanner)
  | .skip scanner => moved scanner (modify Scanner.skip)
  | .skipN scanner count => moved scanner (modify (·.skipN count))
  | .skipWhile number test state => do
    let skipped := (← obtained scanners number).skipWhile test state
    modify (·.withScannerAt number skipped.scanner)
    keepSpan skipped.span
  | .moveTo scanner position => do
    let position ← obtained positions position
    moved scanner (Scanner.moveTo position)
  | .scannerPosition scanner => do
    keepPosition (← obtained scanners scanner).position
  | .charSpan scanner => do
    keepSpan (← obtained scanners scanner).charSpan
  | .spanFrom scanner start => do
    let scanner ← obtained scanners scanner
    let start ← obtained positions start
    asserted scanner.position.InBounds
    keepSpan (← orHalted (scanner.spanFrom start))
  | .spanBetween scanner start stop => do
    let scanner ← obtained scanners scanner
    let start ← obtained positions start
    let stop ← obtained positions stop
    keepSpan (← orHalted (scanner.spanBetween start stop))

/-- The session as a call leaves it, whether it succeeds or fails. -/
def step (session : Session) (call : Call) : Session :=
  match (perform call).run session with
  | .ok _ left => left
  | .error _ left => left

/-- The session after calls on nothing, from the first to the last. -/
def after (calls : List Call) : Session := calls.foldl step empty

theorem after_concat (calls : List Call) (call : Call) :
    after (calls ++ [call]) = (after calls).step call := by
  simp only [after, List.foldl_append, List.foldl_cons, List.foldl_nil]

end Session

end TextLocation
