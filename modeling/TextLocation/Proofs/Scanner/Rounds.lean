import TextLocation.Proofs.Bounds
import TextLocation.Proofs.Scanner.Answers
import TextLocation.Scanner.Tokens

namespace TextLocation.Scanner

variable {σ : Type}

/-- One token of the loop that cuts a text into tokens. The rules, counted from `number`, are tried
in turn, each by the scanner that the one before it has left; if all pass nothing, the character
ahead is a token. -/
inductive Round (test : Test σ) : Nat → List σ → Scanner → Token → Scanner → Prop
  | accepted {number : Nat} {rule : σ} {rules : List σ} {scanner : Scanner}
      (h : (scanner.skipWhile test rule).span.isEmpty = false) :
      Round test number (rule :: rules) scanner
        ⟨some number, (scanner.skipWhile test rule).span⟩ (scanner.skipWhile test rule).scanner
  | refused {number : Nat} {rule : σ} {rules : List σ} {scanner next : Scanner} {token : Token}
      (h : (scanner.skipWhile test rule).span.isEmpty = true)
      (later : Round test (number + 1) rules (scanner.skipWhile test rule).scanner token next) :
      Round test number (rule :: rules) scanner token next
  | exhausted {number : Nat} {scanner : Scanner} :
      Round test number [] scanner ⟨none, scanner.charSpan⟩ scanner.skip

/-- The loop that cuts a text into tokens: a round for each, until the scanner is at the end. -/
inductive Rounds (test : Test σ) (rules : List σ) : Scanner → List Token → Prop
  | done {scanner : Scanner} (h : scanner.isEnd = true) : Rounds test rules scanner []
  | more {scanner next : Scanner} {token : Token} {tokens : List Token}
      (h : scanner.isEnd = false) (round : Round test 0 rules scanner token next)
      (later : Rounds test rules next tokens) : Rounds test rules scanner (token :: tokens)

variable {test : Test σ} {number : Nat} {rule : σ} {rules : List σ} {scanner next : Scanner}
  {token : Token} {tokens : List Token}

theorem isEmpty_skipWhile_iff :
    (scanner.skipWhile test rule).span.isEmpty = true ↔ (test.run rule scanner.rest).1 = 0 := by
  simp [skipWhile, Span.isEmpty, Span.length]

/-- A rule that passes nothing leaves the scanner as it is. -/
theorem scanner_skipWhile (h : (scanner.skipWhile test rule).span.isEmpty = true) :
    (scanner.skipWhile test rule).scanner = scanner := by
  rw [isEmpty_skipWhile_iff] at h
  simp [skipWhile, h]

theorem offset_eq_of_isEnd (h : scanner.isEnd = true) :
    scanner.offset = scanner.source.length := by
  simpa [isEnd] using h

theorem lt_length_of_isEnd (hb : scanner.InBounds) (h : scanner.isEnd = false) :
    scanner.offset < scanner.source.length := by
  have hne : scanner.offset ≠ scanner.source.length := by simpa [isEnd] using h
  exact Nat.lt_of_le_of_ne hb hne

theorem charSpan_of_lt (h : scanner.offset < scanner.source.length) :
    scanner.charSpan = ⟨scanner.source, scanner.offset, scanner.offset + 1⟩ := by
  have hend : scanner.isEnd = false := by simpa [isEnd] using Nat.ne_of_lt h
  simp [charSpan, hend]

theorem exists_round (test : Test σ) (number : Nat) (rules : List σ) (scanner : Scanner) :
    ∃ token next, Round test number rules scanner token next := by
  induction rules generalizing number scanner with
  | nil => exact ⟨_, _, .exhausted⟩
  | cons rule rules ih =>
    cases h : (scanner.skipWhile test rule).span.isEmpty with
    | false => exact ⟨_, _, .accepted h⟩
    | true =>
      obtain ⟨token, next, hlater⟩ := ih (number + 1) (scanner.skipWhile test rule).scanner
      exact ⟨token, next, .refused h hlater⟩

/-- A round moves the scanner on, over the token and no farther. -/
theorem Round.moves (h : Round test number rules scanner token next)
    (hlt : scanner.offset < scanner.source.length) :
    token.span = ⟨scanner.source, scanner.offset, next.offset⟩ ∧
      next.source = scanner.source ∧ scanner.offset < next.offset ∧ next.InBounds := by
  induction h with
  | @accepted number rule rules scanner h =>
    have hpos : (test.run rule scanner.rest).1 ≠ 0 := by
      rw [Ne, ← isEmpty_skipWhile_iff, h]
      decide
    exact ⟨rfl, rfl, Nat.lt_add_of_pos_right (Nat.pos_of_ne_zero hpos),
      InBounds.run_le (Nat.le_of_lt hlt) test rule⟩
  | refused h later ih =>
    rw [scanner_skipWhile h] at ih
    exact ih hlt
  | @exhausted number scanner =>
    rw [skip_of_lt hlt, charSpan_of_lt hlt]
    exact ⟨rfl, rfl, Nat.lt_succ_self _, hlt⟩

theorem Round.eq_found (h : Round test number rules scanner token next) :
    token =
      match scanner.firstAccepted test number rules with
      | some (number, span) => ⟨some number, span⟩
      | none => ⟨none, scanner.charSpan⟩ := by
  induction h with
  | accepted h => simp only [firstAccepted, h, Bool.false_eq_true, if_false]
  | refused h later ih =>
    rw [scanner_skipWhile h] at ih
    simpa only [firstAccepted, h, if_true] using ih
  | exhausted => rfl

theorem tokens_of_lt (h : scanner.offset < scanner.source.length) :
    scanner.tokens test rules =
      scanner.token test rules ::
        Scanner.tokens ⟨scanner.source, (scanner.token test rules).span.stop⟩ test rules := by
  rw [Scanner.tokens, dif_pos h]

theorem Rounds.eq_tokens (h : Rounds test rules scanner tokens) (hb : scanner.InBounds) :
    tokens = scanner.tokens test rules := by
  induction h with
  | @done scanner h =>
    have hend : ¬ scanner.offset < scanner.source.length :=
      Nat.not_lt.2 (Nat.le_of_eq (offset_eq_of_isEnd h).symm)
    rw [Scanner.tokens, dif_neg hend]
  | @more scanner next token tokens h round later ih =>
    have hlt := lt_length_of_isEnd hb h
    obtain ⟨hspan, hsource, _, hnext⟩ := round.moves hlt
    have htoken : token = scanner.token test rules := round.eq_found
    have hscanner : next = ⟨scanner.source, token.span.stop⟩ := by
      rw [hspan, ← hsource]
    rw [tokens_of_lt hlt, ← htoken, ← hscanner, ← ih hnext]

theorem exists_rounds (test : Test σ) (rules : List σ) (hb : scanner.InBounds) :
    ∃ tokens, Rounds test rules scanner tokens := by
  induction hr : scanner.remaining using Nat.strongRecOn generalizing scanner with
  | ind remaining ih =>
    cases h : scanner.isEnd with
    | true => exact ⟨[], .done h⟩
    | false =>
      have hlt := lt_length_of_isEnd hb h
      obtain ⟨token, next, hround⟩ := exists_round test 0 rules scanner
      obtain ⟨_, hsource, hmoved, hnext⟩ := hround.moves hlt
      -- No round leaves the scanner in place, so what remains is less after each.
      have hless : next.remaining < remaining := by
        rw [← hr, Scanner.remaining, Scanner.remaining, hsource]
        exact Nat.sub_lt_sub_left hlt hmoved
      obtain ⟨tokens, hlater⟩ := ih next.remaining hless hnext rfl
      exact ⟨token :: tokens, .more h hround hlater⟩

/-- The loop ends, and what it gives is the tokens of the scanner. -/
theorem rounds_iff (hb : scanner.InBounds) :
    Rounds test rules scanner tokens ↔ tokens = scanner.tokens test rules := by
  constructor
  · exact fun h => h.eq_tokens hb
  · rintro rfl
    obtain ⟨tokens, h⟩ := exists_rounds test rules hb
    rwa [← h.eq_tokens hb]

/-- A token comes from a round that was made where the token starts. -/
theorem Rounds.exists_round (h : Rounds test rules scanner tokens) (hb : scanner.InBounds)
    (ht : token ∈ tokens) :
    ∃ before after, before.source = scanner.source ∧ before.offset < before.source.length ∧
      token.span.start = before.offset ∧ Round test 0 rules before token after := by
  induction h with
  | done => cases ht
  | @more scanner next first tokens h round later ih =>
    have hlt := lt_length_of_isEnd hb h
    obtain ⟨hspan, hsource, _, hnext⟩ := round.moves hlt
    rcases List.mem_cons.1 ht with rfl | ht
    · exact ⟨scanner, next, rfl, hlt, by rw [hspan], round⟩
    · obtain ⟨before, after, hs, hbefore, hstart, hround⟩ := ih hnext ht
      exact ⟨before, after, hs.trans hsource, hbefore, hstart, hround⟩

variable {c : Char}

theorem rest_getElem? (scanner : Scanner) (i : Nat) :
    scanner.rest[i]? = scanner.source.text[scanner.offset + i]? :=
  List.getElem?_drop

/-- Whether a rule passes anything is its answer to the character ahead. -/
theorem isEmpty_skipWhile_eq (hc : scanner.peek = some c) :
    (scanner.skipWhile test rule).span.isEmpty = !test.answer rule [] c := by
  have hfirst : scanner.rest[0]? = some c := by rwa [rest_getElem?]
  have hanswer : test.answer rule [] c = decide (0 < (test.run rule scanner.rest).1) :=
    Test.answer_eq (Nat.zero_le _) hfirst
  rw [Bool.eq_iff_iff, isEmpty_skipWhile_iff, hanswer, Bool.not_eq_true', decide_eq_false_iff_not,
    Nat.not_lt, Nat.le_zero]

/-- The rule of a token is the first to accept the character ahead. -/
theorem Round.rule_eq_some (h : Round test number rules scanner token next)
    (hc : scanner.peek = some c) {i : Nat} (hi : token.rule = some i) :
    ∃ k rule, i = number + k ∧ rules[k]? = some rule ∧
      token.span = (scanner.skipWhile test rule).span ∧ test.answer rule [] c = true ∧
      ∀ j < k, ∀ earlier, rules[j]? = some earlier → test.answer earlier [] c = false := by
  induction h with
  | @accepted number rule rules scanner h =>
    obtain rfl : number = i := Option.some.inj hi
    rw [isEmpty_skipWhile_eq hc, Bool.not_eq_false'] at h
    exact ⟨0, rule, rfl, rfl, rfl, h, fun j hj => absurd hj (Nat.not_lt_zero j)⟩
  | @refused number rule rules scanner next token h later ih =>
    rw [scanner_skipWhile h] at ih
    rw [isEmpty_skipWhile_eq hc, Bool.not_eq_true'] at h
    obtain ⟨k, accepted, rfl, hk, hspan, haccepts, hearlier⟩ := ih hc hi
    refine ⟨k + 1, accepted, Nat.succ_add_eq_add_succ number k, hk, hspan, haccepts, ?_⟩
    intro j hj earlier he
    cases j with
    | zero =>
      obtain rfl : rule = earlier := Option.some.inj he
      exact h
    | succ j => exact hearlier j (Nat.lt_of_succ_lt_succ hj) earlier he
  | exhausted => cases hi

theorem Round.rule_eq_none (h : Round test number rules scanner token next)
    (hc : scanner.peek = some c) (hn : token.rule = none) :
    token.span = scanner.charSpan ∧ ∀ rule ∈ rules, test.answer rule [] c = false := by
  induction h with
  | accepted => cases hn
  | @refused number rule rules scanner next token h later ih =>
    rw [scanner_skipWhile h] at ih
    rw [isEmpty_skipWhile_eq hc, Bool.not_eq_true'] at h
    obtain ⟨hspan, hall⟩ := ih hc hn
    exact ⟨hspan, List.forall_mem_cons.2 ⟨h, hall⟩⟩
  | exhausted => exact ⟨rfl, by simp⟩

/-- A rule without memory passes what it accepts, up to the first character that it refuses. -/
theorem answer_skipWhile (hs : test.Stateless rule) {offset : Nat}
    (hstart : scanner.offset ≤ offset)
    (hstop : offset ≤ (scanner.skipWhile test rule).span.stop)
    (hc : scanner.source.text[offset]? = some c) :
    test.answer rule [] c = true ↔ offset < (scanner.skipWhile test rule).span.stop := by
  obtain ⟨i, rfl⟩ := Nat.exists_eq_add_of_le hstart
  have hi : i ≤ (test.run rule scanner.rest).1 := Nat.le_of_add_le_add_left hstop
  rw [← rest_getElem?] at hc
  rw [← hs (scanner.rest.take i), Test.answer_eq hi hc, decide_eq_true_iff]
  exact (Nat.add_lt_add_iff_left).symm

end TextLocation.Scanner
