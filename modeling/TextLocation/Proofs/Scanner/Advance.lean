import Mathlib.Logic.Function.Iterate
import TextLocation.Proofs.Scanner.Forward
import TextLocation.Proofs.Word

namespace TextLocation

namespace Test

variable {σ : Type} {test : Test σ} {state : σ} {chars : List Char} {count : Nat}

/-- Put to the characters in order, the test accepts the first `count` and refuses the next. -/
def AcceptsFirst (test : Test σ) (state : σ) (chars : List Char) (count : Nat) : Prop :=
  ∀ i c, i ≤ count → chars[i]? = some c →
    test.answer state (chars.take i) c = decide (i < count)

theorem AcceptsFirst.run_eq_min (h : test.AcceptsFirst state chars count) :
    (test.run state chars).1 = min count chars.length := by
  have hlength := test.run_le_length state chars
  have hanswer {i : Nat} (hcount : i ≤ count) (hrun : i ≤ (test.run state chars).1)
      (hi : i < chars.length) : i < count ↔ i < (test.run state chars).1 := by
    have hc := List.getElem?_eq_getElem hi
    rw [← decide_eq_decide, ← h i _ hcount hc, Test.answer_eq hrun hc]
  -- The run can end neither before the count nor behind it.
  rcases Nat.lt_trichotomy (test.run state chars).1 (min count chars.length) with hlt | heq | hgt
  · have hend := hanswer (i := (test.run state chars).1) (by omega) (Nat.le_refl _) (by omega)
    omega
  · exact heq
  · have hnext := hanswer (i := count) (Nat.le_refl _) (by omega) (by omega)
    omega

end Test

namespace Rule

theorem answer_first (count : Nat) (seen : List Char) (c : Char) :
    test.answer (.first count) seen c = decide (seen.length < count) := by
  induction seen generalizing count with
  | nil =>
    cases count with
    | zero => rfl
    | succ count => exact (decide_eq_true (Nat.succ_pos count)).symm
  | cons d seen ih =>
    rw [Test.answer_cons]
    cases count with
    | zero => exact ih 0
    | succ count =>
      simp only [List.length_cons, Nat.add_lt_add_iff_right]
      exact ih count

theorem acceptsFirst_first (chars : List Char) (count : Nat) :
    test.AcceptsFirst (.first count) chars count := by
  intro i c _ hc
  obtain ⟨hlt, _⟩ := List.getElem?_eq_some_iff.1 hc
  rw [answer_first, List.length_take, Nat.min_eq_left (Nat.le_of_lt hlt)]

end Rule

namespace Scanner

variable {scanner : Scanner}

theorem skipN_zero (h : scanner.InBounds) : scanner.skipN 0 = scanner := by
  rw [skipN, Nat.add_zero, Nat.min_eq_left h]

theorem skipN_skipN (scanner : Scanner) (a b : Nat) :
    (scanner.skipN a).skipN b = scanner.skipN (a + b) := by
  simp only [skipN, Scanner.mk.injEq, true_and]
  omega

theorem skip_eq_skipN (h : scanner.InBounds) : scanner.skip = scanner.skipN 1 := by
  rcases Nat.lt_or_ge scanner.offset scanner.source.length with hlt | hle
  · rw [skip_of_lt hlt, skipN_eq hlt]
  · rw [skip_of_le hle, skipN, Nat.min_eq_right (Nat.le_succ_of_le hle), Nat.le_antisymm hle h]

theorem iterate_skip (h : scanner.InBounds) (count : Nat) :
    Scanner.skip^[count] scanner = scanner.skipN count := by
  induction count with
  | zero => exact (skipN_zero h).symm
  | succ count ih =>
    have hcount : (scanner.skipN count).InBounds := Nat.min_le_right ..
    rw [Function.iterate_succ_apply', ih, skip_eq_skipN hcount, skipN_skipN]

theorem skipWhile_eq_skipN (h : scanner.InBounds) {σ : Type} {test : Test σ} {state : σ}
    {count : Nat} (hfirst : test.AcceptsFirst state scanner.rest count) :
    (scanner.skipWhile test state).scanner = scanner.skipN count := by
  change Scanner.mk scanner.source (scanner.offset + (test.run state scanner.rest).1) = _
  rw [hfirst.run_eq_min, skipN, length_rest, ← offset_add_remaining h, Nat.add_min_add_left]

theorem moveTo_own (scanner : Scanner) (offset : Nat) :
    (moveTo ⟨scanner.source, offset⟩).run scanner = .ok () ⟨scanner.source, offset⟩ :=
  run_moveTo_own rfl

theorem offset_skipN_word (h : scanner.InBounds) (ha : scanner.source.Addressable)
    (count : UInt64) :
    (min (saturatingAdd (.ofNat scanner.offset) count) (.ofNat scanner.source.length)).toNat =
      (scanner.skipN count.toNat).offset := by
  have hsum := ha.min_add_saturated 0 (scanner.offset + count.toNat)
  rw [Nat.zero_add, Nat.zero_add] at hsum
  rw [UInt64.toNat_min, toNat_saturatingAdd, ha.toNat_ofNat h, ha.toNat_ofNat (Nat.le_refl _),
    hsum, skipN]

theorem skipN_saturatingAdd (ha : scanner.source.Addressable) (a b : UInt64) :
    scanner.skipN (saturatingAdd a b).toNat = scanner.skipN (a.toNat + b.toNat) := by
  rw [toNat_saturatingAdd, skipN, ha.min_add_saturated, skipN]

theorem move_of_isEnd (h : scanner.isEnd = true) (move : Move) : scanner.move move = scanner := by
  have hend : scanner.offset = scanner.source.length := offset_eq_of_isEnd h
  cases move with
  | look ask => rfl
  | skip => exact skip_of_le (Nat.le_of_eq hend.symm)
  | skipN count =>
    have hoffset : min (scanner.offset + count) scanner.source.length = scanner.offset := by
      omega
    rw [Scanner.move, skipN, hoffset]
  | skipWhile test state =>
    have hrest : scanner.rest = [] := List.drop_eq_nil_of_le (Nat.le_of_eq hend.symm)
    rw [Scanner.move, skipWhile, hrest, Test.run_nil]
    rfl

/-- The end is never left by moving forward. -/
theorem after_of_isEnd (h : scanner.isEnd = true) (moves : List Move) :
    scanner.after moves = scanner := by
  induction moves with
  | nil => rfl
  | cons first moves ih =>
    rw [after, List.foldl_cons, move_of_isEnd h]
    exact ih

/-- Whichever way a scanner is moved on by a count, it comes to the same place, and past the end it
comes to the end. Counts add up, also where their sum is cut short to a word. -/
theorem advances_agree (scanner : Scanner) (h : scanner.InBounds) :
    (∀ count : Nat,
      let there : Scanner :=
        ⟨scanner.source, min (scanner.offset + count) scanner.source.length⟩
      scanner.skipN count = there ∧
        Scanner.skip^[count] scanner = there ∧
        (∀ {σ : Type} (test : Test σ) (state : σ), test.AcceptsFirst state scanner.rest count →
          (scanner.skipWhile test state).scanner = there) ∧
        Rule.test.AcceptsFirst (.first count) scanner.rest count ∧
        ∃ p, scanner.source.position there.offset = .ok p ∧
          (moveTo p).run scanner = .ok () there) ∧
      (∀ a b : Nat, (scanner.skipN a).skipN b = scanner.skipN (a + b) ∧
        (scanner.skipN a).skipN b = (scanner.skipN b).skipN a) ∧
      (scanner.source.Addressable → ∀ a b : UInt64,
        (min (saturatingAdd (.ofNat scanner.offset) a) (.ofNat scanner.source.length)).toNat =
            (scanner.skipN a.toNat).offset ∧
          (scanner.skipN a.toNat).skipN b.toNat = scanner.skipN (saturatingAdd a b).toNat) ∧
      (scanner.isEnd = true → ∀ moves, scanner.after moves = scanner) := by
  refine ⟨?_, ?_, ?_, fun hend moves => after_of_isEnd hend moves⟩
  · intro count there
    have hle : there.offset ≤ scanner.source.length := Nat.min_le_right ..
    exact ⟨rfl, iterate_skip h count, fun test state hfirst => skipWhile_eq_skipN h hfirst,
      Rule.acceptsFirst_first scanner.rest count, _, if_pos hle, scanner.moveTo_own _⟩
  · intro a b
    refine ⟨skipN_skipN scanner a b, ?_⟩
    rw [skipN_skipN, skipN_skipN, Nat.add_comm]
  · intro ha a b
    refine ⟨offset_skipN_word h ha a, ?_⟩
    rw [skipN_skipN, skipN_saturatingAdd ha]

/-- Four ways on by two characters, and counts whose sum is no word. -/
theorem advances_agree_word :
    let source : Source := ⟨⟨0⟩, "f", ['a', '\n', 'b', 'c']⟩
    let scanner : Scanner := ⟨source, 1⟩
    let most : UInt64 := 18446744073709551615
    scanner.InBounds ∧ source.Addressable ∧
      Scanner.skip^[2] scanner = ⟨source, 3⟩ ∧
      (scanner.skipWhile Rule.test (.first 2)).scanner = ⟨source, 3⟩ ∧
      (∃ p, source.position 3 = .ok p ∧ (moveTo p).run scanner = .ok () ⟨source, 3⟩) ∧
      (min (saturatingAdd 1 most) 4).toNat = 4 ∧
      (scanner.skipN 2).skipN most.toNat = scanner.skipN (saturatingAdd 2 most).toNat ∧
      Scanner.after ⟨source, 4⟩ [.skip, .skipN most.toNat] = ⟨source, 4⟩ := by
  intro source scanner most
  have h : scanner.InBounds := by decide
  have ha : source.Addressable := by decide
  obtain ⟨hagree, _, hword, _⟩ := advances_agree scanner h
  obtain ⟨_, hskip, hwhile, hfirst, hmove⟩ := hagree 2
  obtain ⟨_, _, _, hend⟩ := advances_agree ⟨source, 4⟩ (by decide)
  exact ⟨h, ha, hskip, hwhile _ _ hfirst, hmove, (hword ha most 0).1, (hword ha 2 most).2,
    hend rfl _⟩

end Scanner

end TextLocation
