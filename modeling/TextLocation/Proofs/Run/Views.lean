import TextLocation.Proofs.Run.Takes
import TextLocation.Source.Library

namespace TextLocation

theorem toList_foldl_push (s : String) (chars : List Char) :
    (chars.foldl String.push s).toList = s.toList ++ chars := by
  induction chars generalizing s with
  | nil => exact (List.append_nil _).symm
  | cons c chars ih =>
    rw [List.foldl_cons, ih, String.toList_push, List.append_assoc, List.singleton_append]

namespace Run

variable {run : Run} {s : String}

/-- A run is written one character after another. -/
theorem toString_eq_foldl (run : Run) : toString run = run.chars.foldl String.push "" := by
  rw [← String.toList_inj, toList_toString, toList_foldl_push]
  rfl

theorem eqString_iff : run.eqString s = true ↔ run.chars = s.toList := beq_iff_eq

theorem toString_eq_iff : toString run = s ↔ run.chars = s.toList := by
  rw [← String.toList_inj, toList_toString]

theorem eqString_iff_toString : run.eqString s = true ↔ toString run = s := by
  rw [eqString_iff, toString_eq_iff]

theorem eqSlice_iff_toString {slice : String.Slice} :
    run.eqSlice slice = true ↔ toString run = slice.copy :=
  eqString_iff_toString

theorem eqSlice_toSlice : run.eqSlice s.toSlice = run.eqString s := by
  rw [eqSlice, String.copy_toSlice]

/-- Neither of two equal texts goes on behind the other. -/
theorem eqString_of_longer {more : List Char} (hmore : more ≠ [])
    (h : s.toList = run.chars ++ more ∨ run.chars = s.toList ++ more) :
    run.eqString s = false := by
  rw [Bool.eq_false_iff, Ne, eqString_iff]
  intro he
  rcases h with h | h
  · rw [← he] at h
    exact hmore (List.self_eq_append_right.1 h)
  · rw [he] at h
    exact hmore (List.self_eq_append_right.1 h)

theorem beq_iff_toString {x y : Run} : (x == y) = true ↔ toString x = toString y := by
  cases x
  cases y
  rw [beq_iff_eq, toString_eq_iff, toList_toString, Run.mk.injEq]

end Run

/-- What is put into a library is found there under the next number, and reads as it was put in. -/
theorem Library.get?_add (library : Library) (name text : String) :
    ∃ source, (library.add name text).get? library.sources.length = some source ∧
      source.name = name ∧ toString source.run = text ∧ source.run.length = text.length := by
  refine ⟨_, List.getElem?_concat_length, rfl, String.ofList_toList, ?_⟩
  exact String.length_toList

/-- However the characters of a run are looked at, they are the same: compared with a string,
written as one, compared with those of another run, or taken from the two sides. -/
theorem Run.views_agree (run : Run) :
    (∀ s : String,
      (run.eqString s = true ↔ toString run = s) ∧
        (run.eqSlice s.toSlice = true ↔ toString run = s) ∧
        ∀ more, more ≠ [] → s.toList = run.chars ++ more ∨ run.chars = s.toList ++ more →
          run.eqString s = false ∧ run.eqSlice s.toSlice = false ∧ toString run ≠ s) ∧
      (∀ slice : String.Slice, run.eqSlice slice = true ↔ toString run = slice.copy) ∧
      toString run = run.chars.foldl String.push "" ∧
      (∀ other : Run, (run == other) = true ↔ toString run = toString other) ∧
      (∀ (library : Library) (name text : String),
        ∃ source, (library.add name text).get? library.sources.length = some source ∧
          source.name = name ∧ toString source.run = text ∧
          source.run.length = text.length) ∧
      ∀ sides : List Side,
        let iterator := RunIterator.ofRun run
        let last := iterator.after sides
        iterator.givenAt .front sides ++ last.left ++ (iterator.givenAt .back sides).reverse =
            run.chars ∧
          last.left.length = last.remaining ∧
          last.remaining = run.length - sides.length ∧
          (iterator.takes sides).map Prod.snd =
            (List.range sides.length).map (fun made => run.length - (made + 1)) ∧
          ∀ side, (last.take side).1 = none ↔ last.remaining = 0 := by
  refine ⟨?_, fun _ => eqSlice_iff_toString, run.toString_eq_foldl, fun _ => beq_iff_toString,
    fun library => library.get?_add, ?_⟩
  · intro s
    rw [eqSlice_toSlice]
    refine ⟨eqString_iff_toString, eqString_iff_toString, ?_⟩
    intro more hmore h
    have hne := eqString_of_longer hmore h
    refine ⟨hne, hne, ?_⟩
    rw [Ne, ← eqString_iff_toString, hne]
    exact Bool.false_ne_true
  · intro sides iterator last
    have h : iterator.Sound := RunIterator.sound_ofRun run
    have hlast : last.Sound := h.after sides
    refine ⟨?_, hlast.length_left, ?_, ?_, fun side => (hlast.gives_take side).none_iff⟩
    · rw [← h.left_eq, RunIterator.left_ofRun]
    · rw [h.remaining_after, RunIterator.remaining_ofRun]
    · rw [h.map_takes, RunIterator.remaining_ofRun]

/-- Takes at both sides that meet in the middle, and a string that goes on behind the run. -/
theorem Run.views_agree_met :
    let run : Run := ⟨['a', 'b', 'c']⟩
    let sides : List Side := [.back, .front, .back, .front, .back]
    let iterator := RunIterator.ofRun run
    ['d'] ≠ [] ∧
      "abcd".toList = run.chars ++ ['d'] ∧
      run.eqString "abcd" = false ∧
      iterator.givenAt .front sides = ['a'] ∧
      iterator.givenAt .back sides = ['c', 'b'] ∧
      ['a'] ++ (iterator.after sides).left ++ ['b', 'c'] = run.chars ∧
      (iterator.after sides).remaining = 0 ∧
      ((iterator.after sides).take .front).1 = none := by
  intro run sides iterator
  obtain ⟨hstring, _, _, _, _, hsides⟩ := views_agree run
  obtain ⟨_, _, hlonger⟩ := hstring "abcd"
  obtain ⟨hshared, _, hremaining, _, hnone⟩ := hsides sides
  have hne : ['d'] ≠ [] := List.cons_ne_nil _ _
  have hmore : "abcd".toList = run.chars ++ ['d'] := rfl
  exact ⟨hne, hmore, (hlonger ['d'] hne (.inl hmore)).1, rfl, rfl, hshared, hremaining,
    (hnone .front).2 hremaining⟩

end TextLocation
