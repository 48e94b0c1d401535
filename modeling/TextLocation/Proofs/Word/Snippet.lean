import TextLocation.Proofs.Word.Line

namespace TextLocation.Word

/-- A span between words. -/
structure Stretch where
  source : Source
  start : UInt64
  stop : UInt64

/-- A snippet whose place and carets are counted in words. -/
structure Excerpt where
  name : String
  place : Place
  line : Run
  caretCount : UInt64

def Stretch.toSpan (stretch : Stretch) : Span :=
  ⟨stretch.source, stretch.start.toNat, stretch.stop.toNat⟩

def Excerpt.toSnippet (excerpt : Excerpt) : Snippet :=
  ⟨excerpt.name, excerpt.place.toLineColumn, excerpt.line, excerpt.caretCount.toNat⟩

def Stretch.excerpt (overflow : Overflow) (stretch : Stretch) : Except Fault Excerpt := do
  let bounds ← boundsAt overflow stretch.source.text stretch.start
  let line ← part stretch.source.text bounds.start bounds.stop
  return {
    name := stretch.source.name
    place := bounds.place
    line := ⟨line⟩
    caretCount :=
      if stretch.stop ≤ bounds.stop then max (saturatingSub stretch.stop stretch.start) 1 else 1 }

def Excerpt.written (overflow : Overflow) (excerpt : Excerpt) : Except Fault String := do
  let margin ← difference overflow excerpt.place.column 1
  let underline := String.ofList
    (List.replicate margin.toNat ' ' ++ List.replicate excerpt.caretCount.toNat '^')
  return s!"{excerpt.name}:{excerpt.place}\n{excerpt.line}\n{underline}"

theorem toNat_caretCount (start stop limit : UInt64) :
    (if stop ≤ limit then max (saturatingSub stop start) 1 else 1).toNat =
      if stop.toNat ≤ limit.toNat then max (stop.toNat - start.toNat) 1 else 1 := by
  rw [apply_ite UInt64.toNat, UInt64.toNat_max, toNat_saturatingSub]
  simp only [UInt64.le_iff_toNat_le, UInt64.toNat_one]

theorem Stretch.returns_excerpt (stretch : Stretch) (h : Fits stretch.source.text)
    (overflow : Overflow) :
    Returns (stretch.excerpt overflow) fun excerpt =>
      excerpt.toSnippet = stretch.toSpan.snippet := by
  apply (h.returns_boundsAt overflow stretch.start).bind
  intro bounds hbounds
  have hstart : bounds.start.toNat = _ := congrArg LineBounds.start hbounds
  have hstop : bounds.stop.toNat = _ := congrArg LineBounds.stop hbounds
  have hle : bounds.start.toNat ≤ bounds.stop.toNat := by
    rw [hstart, hstop]
    exact Nat.le_trans (start_lineBoundsAt_le _ _) (le_stop_lineBoundsAt _ _)
  have hlength : bounds.stop.toNat ≤ stretch.source.text.length := by
    rw [hstop]
    exact stop_lineBoundsAt_le _ _
  apply (h.returns_part hle hlength).bind
  rintro _ rfl
  apply Returns.ok
  rw [Excerpt.toSnippet, toNat_caretCount, hstart, hstop]
  have hlocation : bounds.place.toLineColumn = _ := congrArg LineBounds.location hbounds
  rw [hlocation]
  rfl

theorem Excerpt.returns_written (excerpt : Excerpt) (h : 1 ≤ excerpt.place.column.toNat)
    (overflow : Overflow) :
    Returns (excerpt.written overflow) fun text => text = toString excerpt.toSnippet := by
  have hone : (1 : UInt64).toNat = 1 := rfl
  apply (returns_difference overflow (by rwa [hone])).bind
  intro margin hmargin
  apply Returns.ok
  rw [hmargin, hone]
  rfl

end TextLocation.Word
