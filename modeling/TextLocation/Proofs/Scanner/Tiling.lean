import Mathlib.Data.List.Chain
import Mathlib.Logic.ExistsUnique
import TextLocation.Proofs.Scanner.Rounds

namespace TextLocation

/-- Spans that lie end to end from one offset of a source to another, none of them empty. -/
inductive Tiles (source : Source) : Nat → List Span → Nat → Prop
  | nil {offset : Nat} : Tiles source offset [] offset
  | cons {start mid stop : Nat} {spans : List Span} (h : start < mid)
      (later : Tiles source mid spans stop) :
      Tiles source start (⟨source, start, mid⟩ :: spans) stop

theorem take_drop_append {text : List Char} {a b c : Nat} (hab : a ≤ b) (hbc : b ≤ c) :
    (text.drop a).take (b - a) ++ (text.drop b).take (c - b) = (text.drop a).take (c - a) := by
  have hc : c - a = (b - a) + (c - b) := by omega
  have hb : a + (b - a) = b := Nat.add_sub_cancel' hab
  rw [hc, List.take_add, List.drop_drop, hb]

namespace Tiles

variable {source : Source} {start stop : Nat} {spans : List Span} {span : Span}

theorem length_le (h : Tiles source start spans stop) : start + spans.length ≤ stop := by
  induction h with
  | nil => exact Nat.le_refl _
  | cons h later ih =>
    rw [List.length_cons]
    omega

theorem le (h : Tiles source start spans stop) : start ≤ stop :=
  Nat.le_of_add_right_le h.length_le

theorem start_eq (h : Tiles source start [] stop) : start = stop := by
  cases h
  rfl

theorem of_mem (h : Tiles source start spans stop) (hs : span ∈ spans) :
    span.source = source ∧ start ≤ span.start ∧ span.start < span.stop := by
  induction h with
  | nil => cases hs
  | cons h later ih =>
    rcases List.mem_cons.1 hs with rfl | hs
    · exact ⟨rfl, Nat.le_refl _, h⟩
    · obtain ⟨hsource, hle, hlt⟩ := ih hs
      exact ⟨hsource, Nat.le_trans (Nat.le_of_lt h) hle, hlt⟩

theorem start_of_head? (h : Tiles source start spans stop) (hs : spans.head? = some span) :
    span.start = start := by
  cases h with
  | nil => cases hs
  | cons =>
    cases hs
    rfl

theorem isChain (h : Tiles source start spans stop) :
    spans.IsChain fun a b => b.start = a.stop := by
  induction h with
  | nil => exact .nil
  | cons h later ih => exact List.isChain_cons.2 ⟨fun b hb => later.start_of_head? hb, ih⟩

theorem stop_of_getLast? (h : Tiles source start spans stop) (hs : spans.getLast? = some span) :
    span.stop = stop := by
  induction h with
  | nil => cases hs
  | @cons start mid stop spans h later ih =>
    cases later with
    | nil =>
      cases hs
      rfl
    | cons => exact ih hs

/-- The slices of the tiles, put together, are the text between the two offsets. -/
theorem slices (h : Tiles source start spans stop) (hb : stop ≤ source.length) :
    ∃ runs : List Run, spans.map Span.slice = runs.map .ok ∧
      runs.flatMap Run.chars = (source.text.drop start).take (stop - start) := by
  induction h with
  | nil => exact ⟨[], rfl, by simp⟩
  | @cons start mid stop spans h later ih =>
    obtain ⟨runs, hruns, hchars⟩ := ih hb
    have hmid : mid ≤ source.length := Nat.le_trans later.le hb
    have hslice : (Span.mk source start mid).slice =
        .ok ⟨(source.text.drop start).take (mid - start)⟩ :=
      Span.slice_eq_ok ⟨Nat.le_trans (Nat.le_of_lt h) hmid, hmid⟩ (Nat.le_of_lt h)
    refine ⟨⟨(source.text.drop start).take (mid - start)⟩ :: runs, ?_, ?_⟩
    · rw [List.map_cons, hslice, hruns, List.map_cons]
    · rw [List.flatMap_cons, hchars]
      exact take_drop_append (Nat.le_of_lt h) later.le

/-- Every offset between the two lies in one of the tiles and in no other. -/
theorem existsUnique_contains (h : Tiles source start spans stop) {offset : Nat}
    (hstart : start ≤ offset) (hstop : offset < stop) :
    ∃! i : Nat, ∃ span, spans[i]? = some span ∧ span.contains ⟨source, offset⟩ = true := by
  induction h with
  | nil => omega
  | @cons start mid stop spans h later ih =>
    by_cases hmid : offset < mid
    · refine ⟨0, ⟨_, rfl, ?_⟩, ?_⟩
      · simp [Span.contains, hstart, hmid]
      · rintro i ⟨span, hi, hcontains⟩
        cases i with
        | zero => rfl
        | succ i =>
          -- A later tile starts where the first stops or behind it.
          obtain ⟨_, hle, _⟩ := later.of_mem (List.mem_of_getElem? hi)
          simp only [Span.contains, decide_eq_true_eq] at hcontains
          omega
    · obtain ⟨i, ⟨span, hi, hcontains⟩, hunique⟩ := ih (Nat.le_of_not_lt hmid) hstop
      refine ⟨i + 1, ⟨span, hi, hcontains⟩, ?_⟩
      rintro j ⟨other, hj, hother⟩
      cases j with
      | zero =>
        cases hj
        simp only [Span.contains, decide_eq_true_eq] at hother
        omega
      | succ j => rw [hunique j ⟨other, hj, hother⟩]

end Tiles

variable {σ : Type} {test : Test σ} {rules : List σ}

theorem Scanner.Rounds.tiles {scanner : Scanner} {tokens : List Token}
    (h : Rounds test rules scanner tokens) (hb : scanner.InBounds) :
    Tiles scanner.source scanner.offset (tokens.map Token.span) scanner.source.length := by
  induction h with
  | @done scanner h =>
    rw [offset_eq_of_isEnd h]
    exact .nil
  | @more scanner next token tokens h round later ih =>
    obtain ⟨hspan, hsource, hmoved, hnext⟩ := round.moves (lt_length_of_isEnd hb h)
    have hlater := ih hnext
    rw [hsource] at hlater
    rw [List.map_cons, hspan]
    exact .cons hmoved hlater

/-- Why a token that starts with the character has its label. A rule is the first to accept the
character, and when it has no memory, the token ends where it first refuses. A token without a rule
is one character that all refuse. -/
structure Token.LabelledBy (token : Token) (source : Source) (test : Test σ) (rules : List σ)
    (c : Char) : Prop where
  of_rule : ∀ i, token.rule = some i → ∃ rule, rules[i]? = some rule ∧
    (∀ j < i, ∀ earlier, rules[j]? = some earlier → test.answer earlier [] c = false) ∧
    test.answer rule [] c = true ∧
    (test.Stateless rule → ∀ offset d, token.span.start ≤ offset →
      offset ≤ token.span.stop → source.text[offset]? = some d →
      (test.answer rule [] d = true ↔ offset < token.span.stop))
  of_none : token.rule = none →
    token.span.stop = token.span.start + 1 ∧ ∀ rule ∈ rules, test.answer rule [] c = false

theorem Scanner.Round.labelled {scanner next : Scanner} {token : Token}
    (h : Round test 0 rules scanner token next) {c : Char} (hc : scanner.peek = some c) :
    token.LabelledBy scanner.source test rules c where
  of_rule i hi := by
    obtain ⟨k, rule, hk, hrule, hspan, haccepts, hearlier⟩ := h.rule_eq_some hc hi
    obtain rfl : i = k := hk.trans (Nat.zero_add k)
    refine ⟨rule, hrule, hearlier, haccepts, ?_⟩
    intro hs offset d hle hstop hd
    rw [hspan] at hle hstop ⊢
    exact Scanner.answer_skipWhile hs hle hstop hd
  of_none hn := by
    obtain ⟨hspan, hrefuse⟩ := h.rule_eq_none hc hn
    obtain ⟨hlt, _⟩ := List.getElem?_eq_some_iff.1 hc
    rw [hspan, Scanner.charSpan_of_lt hlt]
    exact ⟨rfl, hrefuse⟩

/-- The tokens are what the loop that cuts a text comes to. They tile the text, and each has its
label for the character that it starts with. -/
structure Tokenizes (source : Source) (test : Test σ) (rules : List σ) (tokens : List Token) :
    Prop where
  rounds_iff : ∀ found, Scanner.Rounds test rules source.scanner found ↔ found = tokens
  length_le : tokens.length ≤ source.length
  span_own : ∀ span ∈ tokens.map Token.span, span.source = source ∧ span.isEmpty = false
  eq_nil_iff : tokens = [] ↔ source.text = []
  start_of_head? : ∀ span, (tokens.map Token.span).head? = some span → span.start = 0
  isChain : (tokens.map Token.span).IsChain fun a b => b.start = a.stop
  stop_of_getLast? : ∀ span, (tokens.map Token.span).getLast? = some span →
    span.stop = source.length
  slices : ∃ runs : List Run, (tokens.map Token.span).map Span.slice = runs.map .ok ∧
    runs.flatMap Run.chars = source.text
  existsUnique_contains : ∀ offset < source.length, ∃! i : Nat, ∃ span,
    (tokens.map Token.span)[i]? = some span ∧ span.contains ⟨source, offset⟩ = true
  labelled : ∀ token ∈ tokens, ∃ c, source.text[token.span.start]? = some c ∧
    token.LabelledBy source test rules c

namespace Source

theorem rounds_tokens (source : Source) (test : Test σ) (rules : List σ) :
    Scanner.Rounds test rules source.scanner (source.scanner.tokens test rules) :=
  (Scanner.rounds_iff (Nat.zero_le _)).2 rfl

theorem tiles_tokens (source : Source) (test : Test σ) (rules : List σ) :
    Tiles source 0 ((source.scanner.tokens test rules).map Token.span) source.length :=
  (source.rounds_tokens test rules).tiles (Nat.zero_le _)

theorem length_tokens_le (source : Source) (test : Test σ) (rules : List σ) :
    (source.scanner.tokens test rules).length ≤ source.length := by
  have hle := (source.tiles_tokens test rules).length_le
  rwa [Nat.zero_add, List.length_map] at hle

/-- The loop that cuts a text into tokens ends, whatever the test and the rules are. -/
theorem tokens_tile (source : Source) (test : Test σ) (rules : List σ) :
    Tokenizes source test rules (source.scanner.tokens test rules) where
  rounds_iff found := Scanner.rounds_iff (Nat.zero_le _)
  length_le := source.length_tokens_le test rules
  span_own span hs := by
    obtain ⟨hsource, _, hlt⟩ := (source.tiles_tokens test rules).of_mem hs
    refine ⟨hsource, ?_⟩
    simpa [Span.isEmpty, Span.length] using Nat.sub_ne_zero_of_lt hlt
  eq_nil_iff := by
    constructor
    · intro hnil
      have htiles := source.tiles_tokens test rules
      rw [hnil] at htiles
      exact List.eq_nil_of_length_eq_zero htiles.start_eq.symm
    · intro htext
      have hlength := source.length_tokens_le test rules
      rw [length, htext] at hlength
      exact List.eq_nil_of_length_eq_zero (Nat.le_zero.1 hlength)
  start_of_head? _ := (source.tiles_tokens test rules).start_of_head?
  isChain := (source.tiles_tokens test rules).isChain
  stop_of_getLast? _ := (source.tiles_tokens test rules).stop_of_getLast?
  slices := by
    obtain ⟨runs, hruns, hchars⟩ := (source.tiles_tokens test rules).slices (Nat.le_refl _)
    refine ⟨runs, hruns, ?_⟩
    rw [hchars, List.drop_zero, Nat.sub_zero, length, List.take_length]
  existsUnique_contains _ hoffset :=
    (source.tiles_tokens test rules).existsUnique_contains (Nat.zero_le _) hoffset
  labelled token ht := by
    obtain ⟨before, after, hsource, hlt, hstart, hround⟩ :=
      (source.rounds_tokens test rules).exists_round (Nat.zero_le _) ht
    have hc : before.peek = some before.source.text[before.offset] :=
      List.getElem?_eq_getElem hlt
    obtain rfl : before.source = source := hsource
    rw [hstart]
    exact ⟨_, hc, hround.labelled hc⟩

end Source

end TextLocation
