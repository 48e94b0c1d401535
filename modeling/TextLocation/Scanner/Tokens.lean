import TextLocation.Scanner.Basic
import TextLocation.Snippet

namespace TextLocation

/-- A piece of a text, with the number of the rule that accepted it. A character that no rule
accepts is a piece without one. -/
structure Token where
  rule : Option Nat
  span : Span

instance : HasSpan Token where
  span := Token.span

namespace Scanner

variable {σ : Type}

/-- The first of the rules, counted from `number`, to accept the character ahead, and all that it
accepts. A rule is a starting state of the test. -/
def firstAccepted (scanner : Scanner) (test : Test σ) (number : Nat) :
    List σ → Option (Nat × Span)
  | [] => none
  | rule :: rules =>
    let skipped := (scanner.skipWhile test rule).span
    if skipped.isEmpty then scanner.firstAccepted test (number + 1) rules
    else some (number, skipped)

/-- The token that begins where the scanner is. -/
def token (scanner : Scanner) (test : Test σ) (rules : List σ) : Token :=
  match scanner.firstAccepted test 0 rules with
  | some (number, span) => ⟨some number, span⟩
  | none => ⟨none, scanner.charSpan⟩

theorem start_lt_stop_of_firstAccepted {scanner : Scanner} {test : Test σ} {rules : List σ}
    {number : Nat} {found : Nat × Span}
    (h : scanner.firstAccepted test number rules = some found) :
    scanner.offset < found.2.stop := by
  induction rules generalizing number with
  | nil => cases h
  | cons rule rules ih =>
    simp only [firstAccepted] at h
    split at h
    · exact ih h
    · next hne =>
      cases h
      simp only [skipWhile, Span.isEmpty, Span.length, beq_iff_eq] at hne ⊢
      omega

theorem start_lt_stop_token {scanner : Scanner} (h : scanner.offset < scanner.source.length)
    (test : Test σ) (rules : List σ) :
    scanner.offset < (scanner.token test rules).span.stop := by
  unfold token
  split
  · next hf => exact start_lt_stop_of_firstAccepted hf
  · have hend : scanner.isEnd = false := by
      simp only [isEnd, beq_eq_false_iff_ne, ne_eq]
      omega
    simp [charSpan, hend]

/-- Cuts the text ahead into tokens. -/
def tokens (scanner : Scanner) (test : Test σ) (rules : List σ) : List Token :=
  if _ : scanner.offset < scanner.source.length then
    let token := scanner.token test rules
    token :: tokens { scanner with offset := token.span.stop } test rules
  else []
termination_by scanner.source.length - scanner.offset
decreasing_by
  have := start_lt_stop_token ‹scanner.offset < _› test rules
  omega

end Scanner

end TextLocation
