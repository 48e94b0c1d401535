import TextLocation.Proofs.Line.Order
import TextLocation.Proofs.Line.Written
import TextLocation.Proofs.Snippet.Line

namespace TextLocation

/-- A text cut at its last two newlines. -/
structure LastCut (text first second third : List Char) : Prop where
  text_eq : text = first ++ '\n' :: (second ++ '\n' :: third)
  second_newline : '\n' ∉ second
  third_newline : '\n' ∉ third

theorem LastCut.unique {text first second third first' second' third' : List Char}
    (h : LastCut text first second third) (h' : LastCut text first' second' third') :
    first = first' ∧ second = second' ∧ third = third' := by
  have hcons (first second third : List Char) :
      first ++ '\n' :: (second ++ '\n' :: third) = (first ++ '\n' :: second) ++ '\n' :: third := by
    rw [List.append_assoc, List.cons_append]
  have he := h.text_eq.symm.trans h'.text_eq
  -- Cut from the right: only the first part may hold newlines.
  rw [hcons, hcons, append_cons_eq_iff h.third_newline h'.third_newline,
    append_cons_eq_iff h.second_newline h'.second_newline] at he
  exact ⟨he.1.1, he.1.2, he.2⟩

namespace Snippet

theorem toList_underline (snippet : Snippet) :
    snippet.underline.toList =
      List.replicate (snippet.location.column - 1) ' ' ++
        List.replicate snippet.caretCount '^' := by
  rw [underline, String.toList_ofList]

theorem newline_underline (snippet : Snippet) : '\n' ∉ snippet.underline.toList := by
  rw [toList_underline, List.mem_append, not_or]
  exact ⟨fun h => absurd (List.eq_of_mem_replicate h) (by decide),
    fun h => absurd (List.eq_of_mem_replicate h) (by decide)⟩

theorem count_underline (snippet : Snippet) :
    snippet.underline.toList.count '^' = snippet.caretCount := by
  rw [toList_underline, List.count_append, List.count_replicate_self, List.count_replicate]
  exact Nat.zero_add _

theorem toList_toString (snippet : Snippet) :
    (toString snippet).toList =
      (s!"{snippet.name}:{snippet.location}").toList ++
        '\n' :: (snippet.line.chars ++ '\n' :: snippet.underline.toList) := by
  change (s!"{snippet.name}:{snippet.location}" ++ "\n" ++ toString snippet.line ++ "\n" ++
    snippet.underline).toList = _
  simp

theorem lastCut {snippet : Snippet} (h : '\n' ∉ snippet.line.chars) :
    LastCut (toString snippet).toList (s!"{snippet.name}:{snippet.location}").toList
      snippet.line.chars snippet.underline.toList :=
  ⟨snippet.toList_toString, h, snippet.newline_underline⟩

theorem toString_eq_iff {a b : Snippet} (ha : '\n' ∉ a.line.chars) (hb : '\n' ∉ b.line.chars) :
    toString a = toString b ↔ a = b := by
  constructor
  · intro he
    have hcut := lastCut hb
    rw [← he] at hcut
    obtain ⟨hplace, hline, hunderline⟩ := (lastCut ha).unique hcut
    obtain ⟨hname, hlocation⟩ := LineColumn.written_eq_iff.1 (String.toList_inj.1 hplace)
    have hcarets : a.caretCount = b.caretCount := by
      rw [← count_underline, hunderline, count_underline]
    cases a
    cases b
    simp only [Snippet.mk.injEq]
    exact ⟨hname, hlocation, congrArg Run.mk hline, hcarets⟩
  · exact congrArg toString

end Snippet

namespace Span

/-- Spans of one source look the same when they start at one place with as many carets. -/
theorem describe_eq_iff {a b : Span} (ha : a.InBounds) (hb : b.InBounds)
    (hs : a.source = b.source) :
    a.describe = b.describe ↔
      a.start = b.start ∧ a.snippet.caretCount = b.snippet.caretCount := by
  obtain ⟨source, start, stop⟩ := a
  obtain ⟨_, start', stop'⟩ := b
  obtain rfl : source = _ := hs
  rw [describe, describe, Snippet.toString_eq_iff (snippet_newline ha) (snippet_newline hb)]
  constructor
  · intro he
    have hlocation : lineColumnAt source.text start = lineColumnAt source.text start' :=
      congrArg Snippet.location he
    exact ⟨(lineColumnAt_inj ha.1 hb.1).1 hlocation, congrArg Snippet.caretCount he⟩
  · rintro ⟨hstart, hcarets⟩
    obtain rfl : start = start' := hstart
    calc
      (Span.mk source start stop).snippet =
          { (Span.mk source start stop').snippet with
            caretCount := (Span.mk source start stop).snippet.caretCount } := rfl
      _ = (Span.mk source start stop').snippet := by rw [hcarets]

/-- The text of a snippet tells everything about it, whatever name and text it was made from: its
last two newlines cut it into where the span starts, the line there and the carets below it. -/
theorem describe_lossless (a b : Span) (ha : a.InBounds) (hb : b.InBounds) :
    (toString a.snippet = toString b.snippet ↔ a.snippet = b.snippet) ∧
      (∀ first second third,
        LastCut a.describe.toList first second third ↔
          first = (toString a.startPosition).toList ∧
            second = a.snippet.line.chars ∧
            third =
              List.replicate (a.snippet.location.column - 1) ' ' ++
                List.replicate a.snippet.caretCount '^') ∧
      (a.source = b.source →
        (a.describe = b.describe ↔
          a.start = b.start ∧ a.snippet.caretCount = b.snippet.caretCount)) := by
  have hcut : LastCut a.describe.toList (toString a.startPosition).toList a.snippet.line.chars
      a.snippet.underline.toList :=
    Snippet.lastCut (snippet_newline ha)
  rw [Snippet.toList_underline] at hcut
  refine ⟨Snippet.toString_eq_iff (snippet_newline ha) (snippet_newline hb), ?_,
    describe_eq_iff ha hb⟩
  intro first second third
  constructor
  · exact fun h => h.unique hcut
  · rintro ⟨rfl, rfl, rfl⟩
    exact hcut

/-- A name that looks like a whole snippet does not make two snippets look the same. -/
theorem describe_lossless_name :
    let a : Span := ⟨⟨⟨0⟩, "f", ['^']⟩, 0, 1⟩
    let b : Span := ⟨⟨⟨1⟩, "f:1:1\n^\n^", []⟩, 0, 0⟩
    a.InBounds ∧ b.InBounds ∧ toString a.snippet = b.source.name ∧
      toString a.snippet ≠ toString b.snippet ∧
      LastCut a.describe.toList "f:1:1".toList ['^'] ['^'] := by
  intro a b
  have ha : a.InBounds := by decide
  have hb : b.InBounds := by decide
  obtain ⟨hsnippet, hcut, _⟩ := describe_lossless a b ha hb
  have hne : a.snippet ≠ b.snippet := by decide
  refine ⟨ha, hb, by decide +kernel, fun he => hne (hsnippet.1 he), ?_⟩
  exact (hcut _ _ _).2 ⟨by decide +kernel, by decide +kernel, by decide +kernel⟩

end Span

end TextLocation
