import TextLocation.Proofs.Word.Reader

namespace TextLocation.Word

/-- Words suffice: over a text that fits, no sum or difference on the way to a place, to the bounds
of a line, to a snippet and what is written of it, or in the moves and reads of a scanner leaves the
words, and no part is taken that the text does not have. So it does not matter what becomes of a sum
that is no word, and what is found is what numbers without bound would find. -/
theorem words_suffice (source : Source) (h : Fits source.text) (overflow : Overflow) :
    (∀ a b c : UInt64, (sum .faults a b = .ok c → c.toNat = a.toNat + b.toNat) ∧
      (difference .faults a b = .ok c → c.toNat + b.toNat = a.toNat)) ∧
      (∀ offset : UInt64,
        let place := lineColumnAt source.text offset.toNat
        Returns (placeAt overflow source.text offset) (fun found => found.toLineColumn = place) ∧
          1 ≤ place.line ∧ 1 ≤ place.column ∧ place.line + place.column ≤ offset.toNat + 2) ∧
      (∀ start stop : UInt64,
        Returns (placesAt overflow source.text start stop) fun found =>
          found.map Place.toLineColumn Place.toLineColumn =
            lineColumnsAt source.text start.toNat stop.toNat) ∧
      (∀ offset : UInt64,
        let bounds := lineBoundsAt source.text offset.toNat
        let limit := min offset.toNat source.length
        Returns (boundsAt overflow source.text offset) (fun found => found.toLineBounds = bounds) ∧
          bounds.start ≤ limit ∧ limit ≤ bounds.stop ∧ bounds.stop ≤ source.length) ∧
      (∀ start stop : UInt64,
        let stretch : Stretch := ⟨source, start, stop⟩
        Returns (stretch.excerpt overflow) fun excerpt =>
          excerpt.toSnippet = stretch.toSpan.snippet ∧ 1 ≤ excerpt.place.column.toNat ∧
            Returns (excerpt.written overflow) fun text => text = stretch.toSpan.describe) ∧
      ∀ offset : UInt64,
        let reader : Reader := ⟨source, h, offset⟩
        let scanner := reader.toScanner
        scanner.InBounds →
          Returns (reader.remaining overflow) (fun count => count.toNat = scanner.remaining) ∧
            (∀ count : UInt64,
              Returns (reader.peekRun overflow count) fun read =>
                read = scanner.peekRun count.toNat) ∧
            Returns (reader.skip overflow) (fun next => next.toScanner = scanner.skip) ∧
            (∀ count : UInt64,
              (reader.skipN count).toScanner = scanner.skipN count.toNat ∧
                (reader.skipN count).offset.toNat =
                  min (offset.toNat + count.toNat) source.length) ∧
            (∀ {σ : Type} (test : Test σ) (state : σ),
              Returns (reader.skipWhile overflow test state) fun passed =>
                passed.toSkipped = scanner.skipWhile test state) ∧
            Returns (reader.charSpan overflow) fun stretch =>
              stretch.toSpan = scanner.charSpan := by
  refine ⟨?_, ?_, fun start stop => h.returns_placesAt overflow start stop, ?_, ?_, ?_⟩
  · exact fun a b c => ⟨toNat_of_sum_eq_ok, toNat_of_difference_eq_ok⟩
  · intro offset place
    have hsum := line_add_column_lineColumnAt_le source.text offset.toNat
    exact ⟨h.returns_placeAt overflow offset, one_le_line_lineColumnAt _ _,
      one_le_column_lineColumnAt _ _,
      Nat.le_trans hsum (Nat.add_le_add_right (Nat.min_le_left _ _) 2)⟩
  · intro offset bounds limit
    exact ⟨h.returns_boundsAt overflow offset, start_lineBoundsAt_le _ _, le_stop_lineBoundsAt _ _,
      stop_lineBoundsAt_le _ _⟩
  · intro start stop stretch
    apply (stretch.returns_excerpt h overflow).mono
    intro excerpt hexcerpt
    have hcolumn : 1 ≤ excerpt.place.column.toNat := by
      have hplace : excerpt.place.column.toNat =
          (lineColumnAt source.text start.toNat).column :=
        congrArg (fun snippet => snippet.location.column) hexcerpt
      rw [hplace]
      exact one_le_column_lineColumnAt _ _
    refine ⟨hexcerpt, hcolumn, ?_⟩
    rw [Span.describe, ← hexcerpt]
    exact excerpt.returns_written hcolumn overflow
  · intro offset reader scanner hin
    refine ⟨Reader.returns_remaining hin overflow, Reader.returns_peekRun hin overflow,
      reader.returns_skip overflow, ?_,
      fun test state => reader.returns_skipWhile overflow test state,
      Reader.returns_charSpan hin overflow⟩
    intro count
    have hscanner := reader.toScanner_skipN count
    exact ⟨hscanner, congrArg Scanner.offset hscanner⟩

/-- A look past the end, a line found from its newline, a reversed span on the last line, and moves
at the end of the text and by the greatest word. -/
theorem words_suffice_reversed :
    let source : Source := ⟨⟨0⟩, "f", ['a', '\n', 'b', 'c']⟩
    let most : UInt64 := 18446744073709551615
    ∃ h : Fits source.text,
      Scanner.InBounds ⟨source, 4⟩ ∧ Scanner.InBounds ⟨source, 2⟩ ∧
        Returns (placeAt .faults source.text most) (fun found => found.toLineColumn = ⟨2, 3⟩) ∧
        Returns (placesAt .wraps source.text 4 0)
          (fun found => found.map Place.toLineColumn Place.toLineColumn = (⟨2, 3⟩, ⟨1, 1⟩)) ∧
        Returns (boundsAt .faults source.text 1)
          (fun found => found.toLineBounds = ⟨⟨1, 2⟩, 0, 1⟩) ∧
        Returns (Stretch.excerpt .faults ⟨source, 3, 0⟩) (fun excerpt =>
          excerpt.toSnippet = ⟨"f", ⟨2, 2⟩, ⟨['b', 'c']⟩, 1⟩ ∧
            Returns (excerpt.written .faults) fun text => text = "f:2:2\nbc\n ^") ∧
        Returns (Reader.peekRun .faults ⟨source, h, 4⟩ most)
          (fun read => read = .error (.peekPastEnd 18446744073709551615 0)) ∧
        Returns (Reader.skip .faults ⟨source, h, 4⟩) (fun next => next.toScanner = ⟨source, 4⟩) ∧
        (Reader.skipN ⟨source, h, 2⟩ most).offset.toNat = 4 ∧
        Returns (Reader.skipWhile .faults ⟨source, h, 2⟩ (.ofPred Char.isAlpha) ())
          (fun passed => passed.toSkipped = ⟨⟨source, 2, 4⟩, ⟨source, 4⟩, ()⟩) ∧
        Returns (Reader.charSpan .faults ⟨source, h, 4⟩)
          (fun stretch => stretch.toSpan = ⟨source, 4, 4⟩) := by
  intro source most
  have h : Fits source.text := by decide
  have hin : Scanner.InBounds ⟨source, 4⟩ := by decide
  have hword : Scanner.InBounds ⟨source, 2⟩ := by decide
  have hshown : (Span.mk source 3 0).describe = "f:2:2\nbc\n ^" := by decide +kernel
  obtain ⟨_, hplace, _, hbounds, hexcerpt, hreader⟩ := words_suffice source h .faults
  obtain ⟨_, _, hplaces, _⟩ := words_suffice source h .wraps
  obtain ⟨_, hpeek, hskip, _, _, hchar⟩ := hreader 4 hin
  obtain ⟨_, _, _, hskipN, hwhile, _⟩ := hreader 2 hword
  refine ⟨h, hin, hword, (hplace most).1, hplaces 4 0, (hbounds 1).1, ?_, hpeek most, hskip,
    (hskipN most).2, hwhile _ _, hchar⟩
  apply (hexcerpt 3 0).mono
  rintro excerpt ⟨hsnippet, _, hwritten⟩
  refine ⟨hsnippet, ?_⟩
  rwa [← hshown]

end TextLocation.Word
