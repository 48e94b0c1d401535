import Mathlib.Data.List.Induction
import TextLocation.Line.Bounds

namespace TextLocation

/-- The pieces of a text between its newlines. -/
def linesOf (text : List Char) : List (List Char) := text.splitOn '\n'

def unlines (lines : List (List Char)) : List Char := lines.flatMap (· ++ ['\n'])

def newLines (lines : List (List Char)) : List Char := lines.flatMap ('\n' :: ·)

@[simp] theorem unlines_nil : unlines [] = [] := rfl

theorem unlines_cons (line : List Char) (lines : List (List Char)) :
    unlines (line :: lines) = line ++ '\n' :: unlines lines := by
  simp [unlines]

theorem unlines_append (front lines : List (List Char)) :
    unlines (front ++ lines) = unlines front ++ unlines lines :=
  List.flatMap_append

@[simp] theorem newLines_nil : newLines [] = [] := rfl

theorem newLines_cons (line : List Char) (lines : List (List Char)) :
    newLines (line :: lines) = '\n' :: (line ++ newLines lines) := by
  simp [newLines]

theorem newLines_append (lines back : List (List Char)) :
    newLines (lines ++ back) = newLines lines ++ newLines back :=
  List.flatMap_append

theorem intercalate_lines (front : List (List Char)) (line : List Char)
    (back : List (List Char)) :
    ['\n'].intercalate (front ++ line :: back) = unlines front ++ line ++ newLines back := by
  induction front with
  | nil =>
    induction back generalizing line with
    | nil => simp
    | cons next back ih =>
      have hi := ih next
      simp only [List.nil_append] at hi
      simp [hi, newLines_cons]
  | cons first front ih =>
    rw [List.cons_append, List.intercalate_cons_of_ne_nil (by simp), ih, unlines_cons]
    simp

/-- A text cut at an offset: the lines before that of the offset, what this line has to the left
and to the right of it, and the lines after. -/
structure LineCut where
  front : List (List Char)
  left : List Char
  right : List Char
  back : List (List Char)
  front_newline : ∀ line ∈ front, '\n' ∉ line
  left_newline : '\n' ∉ left
  right_newline : '\n' ∉ right
  back_newline : ∀ line ∈ back, '\n' ∉ line

namespace LineCut

def line (cut : LineCut) : List Char := cut.left ++ cut.right

def lines (cut : LineCut) : List (List Char) := cut.front ++ cut.line :: cut.back

def text (cut : LineCut) : List Char := unlines cut.front ++ cut.line ++ newLines cut.back

def offset (cut : LineCut) : Nat := (unlines cut.front).length + cut.left.length

def location (cut : LineCut) : LineColumn := ⟨cut.front.length + 1, cut.left.length + 1⟩

/-- The offset at which the line of the cut ends. -/
def lineEnd (cut : LineCut) : Nat := (unlines cut.front).length + cut.line.length

theorem line_newline (cut : LineCut) : '\n' ∉ cut.line := by
  simp only [line, List.mem_append, not_or]
  exact ⟨cut.left_newline, cut.right_newline⟩

theorem linesOf_text (cut : LineCut) : linesOf cut.text = cut.lines := by
  rw [linesOf, text, ← intercalate_lines]
  apply List.splitOn_intercalate
  · intro line hline
    rcases List.mem_append.1 hline with hf | hb
    · exact cut.front_newline line hf
    · rcases List.mem_cons.1 hb with rfl | hb
      · exact cut.line_newline
      · exact cut.back_newline line hb
  · simp

theorem text_eq (cut : LineCut) :
    cut.text = (unlines cut.front ++ cut.left) ++ (cut.right ++ newLines cut.back) := by
  simp only [text, line, List.append_assoc]

theorem take_offset (cut : LineCut) :
    cut.text.take cut.offset = unlines cut.front ++ cut.left := by
  rw [text_eq]
  exact List.take_left' List.length_append

theorem drop_offset (cut : LineCut) :
    cut.text.drop cut.offset = cut.right ++ newLines cut.back := by
  rw [text_eq]
  exact List.drop_left' List.length_append

theorem offset_le (cut : LineCut) : cut.offset ≤ cut.text.length := by
  simp only [offset, text, line, List.length_append]
  omega

theorem lineEnd_eq (cut : LineCut) : cut.lineEnd = cut.offset + cut.right.length := by
  simp only [lineEnd, offset, line, List.length_append]
  omega

theorem length_text (cut : LineCut) :
    cut.text.length = cut.lineEnd + (newLines cut.back).length := by
  simp only [text, lineEnd, List.length_append]

theorem lines_line (cut : LineCut) :
    cut.lines[cut.location.line - 1]? = some cut.line := by
  simp [lines, location]

/-- Cuts of one text in the same line have the same lines around them. -/
theorem eq_of_line_eq {cut other : LineCut} (ht : cut.text = other.text)
    (hl : cut.location.line = other.location.line) :
    cut.front = other.front ∧ cut.line = other.line ∧ cut.back = other.back := by
  have hlines : cut.lines = other.lines := by
    rw [← linesOf_text, ht, linesOf_text]
  simp only [location, Nat.add_right_cancel_iff] at hl
  obtain ⟨hf, hb⟩ := List.append_inj hlines hl
  obtain ⟨hline, hback⟩ := List.cons.inj hb
  exact ⟨hf, hline, hback⟩

/-- The cut `n` characters farther to the right in the same line. -/
def shift (cut : LineCut) (n : Nat) : LineCut where
  front := cut.front
  left := cut.left ++ cut.right.take n
  right := cut.right.drop n
  back := cut.back
  front_newline := cut.front_newline
  left_newline hn := (List.mem_append.1 hn).elim cut.left_newline
    fun hr => cut.right_newline (List.mem_of_mem_take hr)
  right_newline hn := cut.right_newline (List.mem_of_mem_drop hn)
  back_newline := cut.back_newline

@[simp] theorem text_shift (cut : LineCut) (n : Nat) : (cut.shift n).text = cut.text := by
  simp [text, line, shift]

theorem offset_shift (cut : LineCut) {n : Nat} (h : n ≤ cut.right.length) :
    (cut.shift n).offset = cut.offset + n := by
  simp only [offset, shift, List.length_append, List.length_take, Nat.min_eq_left h]
  omega

theorem location_shift (cut : LineCut) {n : Nat} (h : n ≤ cut.right.length) :
    (cut.shift n).location = ⟨cut.location.line, cut.location.column + n⟩ := by
  simp only [location, shift, List.length_append, List.length_take, Nat.min_eq_left h,
    LineColumn.mk.injEq, true_and]
  omega

def ofLine (front : List (List Char)) (line : List Char) (back : List (List Char)) (n : Nat)
    (h : ∀ l ∈ front ++ line :: back, '\n' ∉ l) : LineCut where
  front := front
  left := line.take n
  right := line.drop n
  back := back
  front_newline l hl := h l (List.mem_append_left _ hl)
  left_newline hn := h line (by simp) (List.mem_of_mem_take hn)
  right_newline hn := h line (by simp) (List.mem_of_mem_drop hn)
  back_newline l hl := h l (by simp [hl])

theorem lines_ofLine {front : List (List Char)} {line : List Char} {back : List (List Char)}
    (n : Nat) (h : ∀ l ∈ front ++ line :: back, '\n' ∉ l) :
    (ofLine front line back n h).lines = front ++ line :: back := by
  simp only [lines, LineCut.line, ofLine, List.take_append_drop]

def amid (front : List (List Char)) (cut : LineCut) (back : List (List Char))
    (hfront : ∀ line ∈ front, '\n' ∉ line) (hback : ∀ line ∈ back, '\n' ∉ line) : LineCut where
  front := front ++ cut.front
  left := cut.left
  right := cut.right
  back := cut.back ++ back
  front_newline := List.forall_mem_append.2 ⟨hfront, cut.front_newline⟩
  left_newline := cut.left_newline
  right_newline := cut.right_newline
  back_newline := List.forall_mem_append.2 ⟨cut.back_newline, hback⟩

section amid

variable {front : List (List Char)} {cut : LineCut} {back : List (List Char)}
  (hfront : ∀ line ∈ front, '\n' ∉ line) (hback : ∀ line ∈ back, '\n' ∉ line)

theorem lines_amid : (amid front cut back hfront hback).lines = front ++ cut.lines ++ back := by
  simp [lines, amid, line]

theorem offset_amid :
    (amid front cut back hfront hback).offset = (unlines front).length + cut.offset := by
  simp only [offset, amid, unlines_append, List.length_append]
  omega

theorem text_amid :
    (amid front cut back hfront hback).text = unlines front ++ cut.text ++ newLines back := by
  simp only [text, amid, line, unlines_append, newLines_append, List.append_assoc]

theorem location_amid :
    (amid front cut back hfront hback).location =
      ⟨cut.location.line + front.length, cut.location.column⟩ := by
  simp only [location, amid, List.length_append, LineColumn.mk.injEq, and_true]
  omega

theorem lineEnd_amid :
    (amid front cut back hfront hback).lineEnd = (unlines front).length + cut.lineEnd := by
  simp only [lineEnd, amid, line, unlines_append, List.length_append]
  omega

end amid

theorem text_eq_intercalate (cut : LineCut) : cut.text = ['\n'].intercalate cut.lines :=
  (intercalate_lines _ _ _).symm

end LineCut

theorem newline_of_mem_linesOf {text line : List Char} (h : line ∈ linesOf text) :
    '\n' ∉ line := by
  induction text generalizing line with
  | nil =>
    have he : line = [] := by simpa [linesOf] using h
    simp [he]
  | cons c text ih =>
    rw [linesOf, List.splitOn_cons_eq_if_modifyHead] at h
    split at h
    · rcases List.mem_cons.1 h with rfl | h
      · simp
      · exact ih h
    · next hc =>
      obtain ⟨first, rest, he⟩ := List.exists_cons_of_ne_nil (List.splitOn_ne_nil '\n' text)
      rw [he, List.modifyHead_cons] at h
      have hmem : ∀ l ∈ first :: rest, '\n' ∉ l := fun l hl => ih (by rwa [linesOf, he])
      rcases List.mem_cons.1 h with rfl | h
      · have hf := hmem first List.mem_cons_self
        simp only [List.mem_cons, not_or]
        exact ⟨fun hn => hc (by simp [← hn]), hf⟩
      · exact hmem line (List.mem_cons_of_mem _ h)

theorem linesOf_ne_nil (text : List Char) : linesOf text ≠ [] := List.splitOn_ne_nil '\n' text

theorem intercalate_linesOf (text : List Char) : ['\n'].intercalate (linesOf text) = text :=
  List.intercalate_splitOn '\n'

/-- Lines can be cut at every offset of the text that they make up. -/
theorem exists_cut_of_lines {lines : List (List Char)} (hne : lines ≠ [])
    (hn : ∀ line ∈ lines, '\n' ∉ line) {offset : Nat}
    (h : offset ≤ (['\n'].intercalate lines).length) :
    ∃ cut : LineCut, cut.lines = lines ∧ cut.offset = offset := by
  induction lines generalizing offset with
  | nil => exact absurd rfl hne
  | cons line back ih =>
    by_cases hle : offset ≤ line.length
    · refine ⟨.ofLine [] line back offset hn, LineCut.lines_ofLine offset hn, ?_⟩
      simp [LineCut.offset, LineCut.ofLine, hle]
    · have hback : back ≠ [] := by
        rintro rfl
        rw [List.intercalate_singleton] at h
        exact hle h
      rw [List.intercalate_cons_of_ne_nil hback] at h
      simp only [List.length_append, List.length_singleton] at h
      have hrest : offset - (line.length + 1) ≤ (['\n'].intercalate back).length := by omega
      obtain ⟨cut, hlines, hoffset⟩ := ih hback
        (fun l hl => hn l (List.mem_cons_of_mem _ hl)) hrest
      have hline : ∀ l ∈ [line], '\n' ∉ l :=
        List.forall_mem_singleton.2 (hn line List.mem_cons_self)
      refine ⟨.amid [line] cut [] hline (by simp), ?_, ?_⟩
      · rw [LineCut.lines_amid, hlines]
        simp
      · rw [LineCut.offset_amid, hoffset, unlines_cons]
        simp only [unlines_nil, List.length_append, List.length_singleton]
        omega

theorem exists_cut {text : List Char} {offset : Nat} (h : offset ≤ text.length) :
    ∃ cut : LineCut, cut.text = text ∧ cut.offset = offset := by
  rw [← intercalate_linesOf text] at h
  obtain ⟨cut, hlines, hoffset⟩ := exists_cut_of_lines (linesOf_ne_nil text)
    (fun line hl => newline_of_mem_linesOf hl) h
  exact ⟨cut, by rw [cut.text_eq_intercalate, hlines, intercalate_linesOf], hoffset⟩

theorem exists_cut_of_line {text line : List Char} {i n : Nat}
    (hi : (linesOf text)[i]? = some line) (hn : n ≤ line.length) :
    ∃ cut : LineCut, cut.text = text ∧ cut.location = ⟨i + 1, n + 1⟩ := by
  obtain ⟨hlt, hline⟩ := List.getElem?_eq_some_iff.1 hi
  have hsplit : (linesOf text).take i ++ line :: (linesOf text).drop (i + 1) = linesOf text := by
    rw [← hline, List.getElem_cons_drop, List.take_append_drop]
  have hmem : ∀ l ∈ (linesOf text).take i ++ line :: (linesOf text).drop (i + 1), '\n' ∉ l := by
    rw [hsplit]
    exact fun l hl => newline_of_mem_linesOf hl
  refine ⟨.ofLine _ line _ n hmem, ?_, ?_⟩
  · rw [LineCut.text_eq_intercalate, LineCut.lines_ofLine, hsplit, intercalate_linesOf]
  · simp only [LineCut.location, LineCut.ofLine, List.length_take, Nat.min_eq_left hn,
      Nat.min_eq_left (Nat.le_of_lt hlt)]

end TextLocation
