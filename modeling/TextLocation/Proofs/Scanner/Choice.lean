import TextLocation.Proofs.Scanner.Forward
import TextLocation.Scanner.Choice

namespace TextLocation

/-- One literal is the start of another, which goes on behind it. -/
def StartsProperly (literal longer : String) : Prop :=
  literal.toList <+: longer.toList ∧ literal ≠ longer

instance (literal longer : String) : Decidable (StartsProperly literal longer) :=
  inferInstanceAs (Decidable (_ ∧ _))

namespace Scanner

/-- The loop that tries literals in their order. A literal is compared with as many characters ahead
as it has, if there are so many. The first that is equal to them is passed and captured; if none is,
the scanner stays. -/
inductive Tries (scanner : Scanner) : List String → Option Span → Scanner → Prop
  | passed {literal : String} {literals : List String} {run : Run} {span : Span}
      (peek : scanner.peekRun literal.length = .ok run) (equal : run.eqString literal = true)
      (captured : (scanner.skipN literal.length).spanFrom scanner.position = .ok span) :
      Tries scanner (literal :: literals) (some span) (scanner.skipN literal.length)
  | differs {literal : String} {literals : List String} {run : Run} {found : Option Span}
      {next : Scanner} (peek : scanner.peekRun literal.length = .ok run)
      (unequal : run.eqString literal = false) (later : Tries scanner literals found next) :
      Tries scanner (literal :: literals) found next
  | tooLong {literal : String} {literals : List String} {error : LocationError}
      {found : Option Span} {next : Scanner}
      (peek : scanner.peekRun literal.length = .error error)
      (later : Tries scanner literals found next) : Tries scanner (literal :: literals) found next
  | exhausted : Tries scanner [] none scanner

/-- The first of the literals to come next in the text, with its span and the scanner behind it. -/
structure Chooses (scanner : Scanner) (literals : List String) (literal : String) (span : Span)
    (next : Scanner) : Prop where
  first : ∃ before later, literals = before ++ literal :: later ∧
    ∀ other ∈ before, ¬ other.toList <+: scanner.rest
  ahead : literal.toList <+: scanner.rest
  span_eq : span = ⟨scanner.source, scanner.offset, next.offset⟩
  next_eq : next = ⟨scanner.source, scanner.offset + literal.length⟩
  slice : span.slice = .ok ⟨literal.toList⟩
  length : span.length = literal.length

variable {scanner next : Scanner} {literal other : String} {literals : List String} {span : Span}
  {found : Option Span}

theorem length_le_remaining (h : literal.toList <+: scanner.rest) :
    literal.length ≤ scanner.remaining := by
  rw [← String.length_toList, ← length_rest]
  exact h.length_le

theorem eqString_take_iff :
    (Run.mk (scanner.rest.take literal.length)).eqString literal = true ↔
      literal.toList <+: scanner.rest := by
  rw [Run.eqString, beq_iff_eq, List.prefix_iff_eq_take, String.length_toList]
  exact eq_comm

theorem accept_cons_ahead (h : scanner.InBounds) (hp : literal.toList <+: scanner.rest) :
    scanner.accept (literal :: literals) =
      some (⟨scanner.source, scanner.offset, scanner.offset + literal.length⟩,
        ⟨scanner.source, scanner.offset + literal.length⟩) := by
  have hle := length_le_remaining hp
  have hnext := skipN_eq (add_le_of_le_remaining h hle)
  simp only [accept, peekRun_eq_ok h hle, eqString_take_iff.2 hp, if_true, hnext]

theorem accept_cons_not_ahead (h : scanner.InBounds)
    (hn : ¬ literal.toList <+: scanner.rest) :
    scanner.accept (literal :: literals) = scanner.accept literals := by
  by_cases hle : literal.length ≤ scanner.remaining
  · have hunequal := mt eqString_take_iff.1 hn
    simp only [accept, peekRun_eq_ok h hle, if_neg hunequal]
  · simp only [accept, peekRun, if_neg hle]

theorem accept_eq_none_iff (h : scanner.InBounds) :
    scanner.accept literals = none ↔ ∀ literal ∈ literals, ¬ literal.toList <+: scanner.rest := by
  induction literals with
  | nil => exact ⟨fun _ _ hl => absurd hl List.not_mem_nil, fun _ => rfl⟩
  | cons literal literals ih =>
    rw [List.forall_mem_cons]
    by_cases hp : literal.toList <+: scanner.rest
    · rw [accept_cons_ahead h hp]
      exact ⟨fun he => absurd he (Option.some_ne_none _), fun hn => absurd hp hn.1⟩
    · rw [accept_cons_not_ahead h hp, ih, and_iff_right hp]

theorem chooses_cons (h : scanner.InBounds) (hp : literal.toList <+: scanner.rest) :
    Chooses scanner (literal :: literals) literal
      ⟨scanner.source, scanner.offset, scanner.offset + literal.length⟩
      ⟨scanner.source, scanner.offset + literal.length⟩ where
  first := ⟨[], literals, rfl, by simp⟩
  ahead := hp
  span_eq := rfl
  next_eq := rfl
  slice := by
    have hstop := add_le_of_le_remaining h (length_le_remaining hp)
    have htake := List.prefix_iff_eq_take.1 hp
    rw [String.length_toList] at htake
    rw [slice_ahead hstop, ← htake]
  length := Nat.add_sub_cancel_left ..

theorem Chooses.cons (h : Chooses scanner literals literal span next)
    (hn : ¬ other.toList <+: scanner.rest) :
    Chooses scanner (other :: literals) literal span next where
  first := by
    obtain ⟨before, later, rfl, hbefore⟩ := h.first
    exact ⟨other :: before, later, rfl, List.forall_mem_cons.2 ⟨hn, hbefore⟩⟩
  ahead := h.ahead
  span_eq := h.span_eq
  next_eq := h.next_eq
  slice := h.slice
  length := h.length

theorem exists_chooses (h : scanner.InBounds) (ha : scanner.accept literals = some (span, next)) :
    ∃ literal, Chooses scanner literals literal span next := by
  induction literals with
  | nil => cases ha
  | cons literal literals ih =>
    by_cases hp : literal.toList <+: scanner.rest
    · rw [accept_cons_ahead h hp] at ha
      cases ha
      exact ⟨literal, chooses_cons h hp⟩
    · rw [accept_cons_not_ahead h hp] at ha
      obtain ⟨chosen, hchosen⟩ := ih ha
      exact ⟨chosen, hchosen.cons hp⟩

theorem Chooses.accept_eq (hc : Chooses scanner literals literal span next)
    (h : scanner.InBounds) : scanner.accept literals = some (span, next) := by
  obtain ⟨before, later, rfl, hbefore⟩ := hc.first
  have hskipped : scanner.accept (before ++ literal :: later) =
      scanner.accept (literal :: later) := by
    clear hc
    induction before with
    | nil => rfl
    | cons other before ih =>
      obtain ⟨hn, hbefore⟩ := List.forall_mem_cons.1 hbefore
      exact (accept_cons_not_ahead h hn).trans (ih hbefore)
  rw [hskipped, accept_cons_ahead h hc.ahead, hc.span_eq, hc.next_eq]

/-- Of two literals that come next the shorter is the start of the longer. So none that is longer
than the one chosen comes after it, unless the one chosen is its proper start. -/
theorem Chooses.length_le (h : Chooses scanner literals literal span next)
    (hl : literals.Pairwise fun a b => ¬ StartsProperly a b) (ho : other ∈ literals)
    (hp : other.toList <+: scanner.rest) : other.length ≤ literal.length := by
  obtain ⟨before, later, rfl, hbefore⟩ := h.first
  obtain ⟨_, hlater, _⟩ := List.pairwise_append.1 hl
  rcases List.mem_append.1 ho with ho | ho
  · exact absurd hp (hbefore other ho)
  · rcases List.mem_cons.1 ho with rfl | ho
    · exact Nat.le_refl _
    · have hstart := (List.pairwise_cons.1 hlater).1 other ho
      apply Nat.le_of_not_lt
      intro hlt
      have hle : literal.toList.length ≤ other.toList.length := by
        rw [String.length_toList, String.length_toList]
        exact Nat.le_of_lt hlt
      refine hstart ⟨List.prefix_of_prefix_length_le h.ahead hp hle, ?_⟩
      rintro rfl
      exact Nat.lt_irrefl _ hlt

theorem Tries.accept_eq (h : Tries scanner literals found next) (hb : scanner.InBounds) :
    scanner.accept literals = found.map (fun span => (span, next)) ∧
      (found = none → next = scanner) := by
  induction h with
  | @passed literal literals run span peek equal captured =>
    have hspan := Except.ok.inj (captured.symm.trans (passes_skipN hb literal.length).spanFrom)
    refine ⟨?_, fun hn => absurd hn (Option.some_ne_none span)⟩
    simp only [accept, peek, equal, if_true, hspan, Option.map_some]
  | differs peek unequal later ih =>
    refine ⟨?_, ih.2⟩
    simp only [accept, peek, unequal, Bool.false_eq_true, if_false, ih.1]
  | tooLong peek later ih =>
    refine ⟨?_, ih.2⟩
    simp only [accept, peek, ih.1]
  | exhausted => exact ⟨rfl, fun _ => rfl⟩

theorem exists_tries (hb : scanner.InBounds) (literals : List String) :
    ∃ found next, Tries scanner literals found next := by
  induction literals with
  | nil => exact ⟨_, _, .exhausted⟩
  | cons literal literals ih =>
    obtain ⟨found, next, hlater⟩ := ih
    cases hpeek : scanner.peekRun literal.length with
    | error error => exact ⟨_, _, .tooLong hpeek hlater⟩
    | ok run =>
      cases hequal : run.eqString literal with
      | false => exact ⟨_, _, .differs hpeek hequal hlater⟩
      | true => exact ⟨_, _, .passed hpeek hequal (passes_skipN hb literal.length).spanFrom⟩

theorem tries_some_iff (hb : scanner.InBounds) :
    Tries scanner literals (some span) next ↔ scanner.accept literals = some (span, next) := by
  constructor
  · exact fun h => (h.accept_eq hb).1
  · intro ha
    obtain ⟨found, last, h⟩ := exists_tries hb literals
    obtain ⟨haccept, _⟩ := h.accept_eq hb
    rw [ha] at haccept
    obtain ⟨found, rfl, he⟩ := Option.map_eq_some_iff.1 haccept.symm
    cases he
    exact h

theorem tries_none_iff (hb : scanner.InBounds) :
    Tries scanner literals none next ↔ scanner.accept literals = none ∧ next = scanner := by
  constructor
  · intro h
    obtain ⟨haccept, hstay⟩ := h.accept_eq hb
    exact ⟨haccept, hstay rfl⟩
  · rintro ⟨ha, rfl⟩
    obtain ⟨found, last, h⟩ := exists_tries hb literals
    obtain ⟨haccept, hstay⟩ := h.accept_eq hb
    rw [ha] at haccept
    obtain rfl := Option.map_eq_none_iff.1 haccept.symm
    rwa [hstay rfl] at h

/-- The loop over the literals ends, with the first of them that comes next in the text, whether or
not others before it are longer than what is left. If none comes next the scanner stays. The one
chosen is the longest to come next, unless a literal is the proper start of one behind it. -/
theorem accept_chooses_first (scanner : Scanner) (h : scanner.InBounds)
    (literals : List String) :
    (∀ span next, Tries scanner literals (some span) next ↔
      scanner.accept literals = some (span, next)) ∧
      (∀ next, Tries scanner literals none next ↔
        scanner.accept literals = none ∧ next = scanner) ∧
      (scanner.accept literals = none ↔
        ∀ literal ∈ literals, ¬ literal.toList <+: scanner.rest) ∧
      (∀ span next, scanner.accept literals = some (span, next) ↔
        ∃ literal, Chooses scanner literals literal span next) ∧
      ((literals.Pairwise fun a b => ¬ StartsProperly a b) →
        ∀ literal span next, Chooses scanner literals literal span next →
          ∀ other ∈ literals, other.toList <+: scanner.rest → other.length ≤ literal.length) := by
  refine ⟨fun span next => tries_some_iff h, fun next => tries_none_iff h, accept_eq_none_iff h,
    fun span next => ⟨exists_chooses h, ?_⟩, ?_⟩
  · rintro ⟨literal, hchosen⟩
    exact hchosen.accept_eq h
  · intro hl literal span next hchosen other ho hp
    exact hchosen.length_le hl ho hp

/-- The first literal is longer than what is left, and the last comes next at every place. -/
theorem accept_chooses_first_near_end :
    let source : Source := ⟨⟨0⟩, "f", ['a', '=', '=']⟩
    let scanner : Scanner := ⟨source, 1⟩
    let literals := ["===", "==", "=", "=", ""]
    scanner.InBounds ∧ (literals.Pairwise fun a b => ¬ StartsProperly a b) ∧
      Tries scanner literals (some ⟨source, 1, 3⟩) ⟨source, 3⟩ ∧
      Tries scanner ["===", "a"] none scanner ∧
      ∀ other ∈ literals, other.toList <+: scanner.rest → other.length ≤ "==".length := by
  intro source scanner literals
  have h : scanner.InBounds := by decide
  have hl : literals.Pairwise fun a b => ¬ StartsProperly a b := by decide +kernel
  obtain ⟨hsome, _, _, hchosen, hlongest⟩ := accept_chooses_first scanner h literals
  obtain ⟨_, hnone, _⟩ := accept_chooses_first scanner h ["===", "a"]
  have haccept : scanner.accept literals = some (⟨source, 1, 3⟩, ⟨source, 3⟩) := by
    rfl
  have hrefused : scanner.accept ["===", "a"] = none := by
    rfl
  obtain ⟨literal, hliteral⟩ := (hchosen _ _).1 haccept
  have hlength : literal.length = 2 := hliteral.length.symm
  refine ⟨h, hl, (hsome _ _).2 haccept, (hnone _).2 ⟨hrefused, rfl⟩, ?_⟩
  intro other ho hp
  have hle := hlongest hl literal _ _ hliteral other ho hp
  rwa [hlength] at hle

end Scanner

end TextLocation
