import TextLocation.Proofs.Line.Agreement
import TextLocation.Proofs.Line.Invariant
import TextLocation.Proofs.Word.Arithmetic

namespace TextLocation.Word

/-- A line and a column as words. -/
structure Place where
  line : UInt64
  column : UInt64
  deriving DecidableEq

/-- A walk that counts in words. -/
structure Walk where
  offset : UInt64
  place : Place
  lineStart : UInt64

structure PairOfPlaces where
  walk : Walk
  start? : Option Place
  stop? : Option Place

/-- A line of a text, bounded by words. -/
structure Bounds where
  place : Place
  start : UInt64
  stop : UInt64

def Place.toLineColumn (place : Place) : LineColumn := ⟨place.line.toNat, place.column.toNat⟩

instance : ToString Place where
  toString place := s!"{place.line}:{place.column}"

def Walk.toLineWalk (walk : Walk) : LineWalk :=
  ⟨walk.offset.toNat, walk.place.toLineColumn, walk.lineStart.toNat⟩

def PairOfPlaces.toPairWalk (pair : PairOfPlaces) : PairWalk :=
  ⟨pair.walk.toLineWalk, pair.start?.map Place.toLineColumn, pair.stop?.map Place.toLineColumn⟩

def Bounds.toLineBounds (bounds : Bounds) : LineBounds :=
  ⟨bounds.place.toLineColumn, bounds.start.toNat, bounds.stop.toNat⟩

def Walk.start : Walk := ⟨0, ⟨1, 1⟩, 0⟩

def Walk.step (overflow : Overflow) (walk : Walk) (c : Char) : Except Fault Walk := do
  -- The count of characters and the offset behind a newline are each added up, though they are one.
  let offset ← sum overflow walk.offset 1
  if c = '\n' then
    let line ← sum overflow walk.place.line 1
    let lineStart ← sum overflow walk.offset 1
    return ⟨offset, ⟨line, 1⟩, lineStart⟩
  else
    let column ← sum overflow walk.place.column 1
    return ⟨offset, ⟨walk.place.line, column⟩, walk.lineStart⟩

/-- The walk over the characters before an offset, which must be one of the text. -/
def walkTo (overflow : Overflow) (text : List Char) (offset : UInt64) : Except Fault Walk := do
  let behind ← part text 0 offset
  behind.foldlM (Walk.step overflow) .start

def placeAt (overflow : Overflow) (text : List Char) (offset : UInt64) : Except Fault Place := do
  let walk ← walkTo overflow text (min offset (lengthOf text))
  return walk.place

namespace PairOfPlaces

def start : PairOfPlaces := ⟨.start, none, none⟩

def step (overflow : Overflow) (start stop : UInt64) (pair : PairOfPlaces) (c : Char) :
    Except Fault PairOfPlaces := do
  let walk ← pair.walk.step overflow c
  return {
    walk
    start? := if pair.walk.offset = start then some pair.walk.place else pair.start?
    stop? := if pair.walk.offset = stop then some pair.walk.place else pair.stop? }

def places (pair : PairOfPlaces) : Place × Place :=
  (pair.start?.getD pair.walk.place, pair.stop?.getD pair.walk.place)

end PairOfPlaces

def placesAt (overflow : Overflow) (text : List Char) (start stop : UInt64) :
    Except Fault (Place × Place) := do
  let behind ← part text 0 (min (max start stop) (lengthOf text))
  let pair ← behind.foldlM (PairOfPlaces.step overflow start stop) .start
  return pair.places

/-- Where the line of an offset ends, which must be an offset of the text. -/
def lineEndFrom (overflow : Overflow) (text : List Char) (offset : UInt64) :
    Except Fault UInt64 := do
  let ahead ← part text offset (lengthOf text)
  match ahead.findIdx? (· = '\n') with
  | some newline => sum overflow offset (.ofNat newline)
  | none => return lengthOf text

def boundsAt (overflow : Overflow) (text : List Char) (offset : UInt64) : Except Fault Bounds := do
  let limit := min offset (lengthOf text)
  let walk ← walkTo overflow text limit
  let stop ← lineEndFrom overflow text limit
  return ⟨walk.place, walk.lineStart, stop⟩

/-- A bounded walk with so many characters to go in a text that fits. -/
def Room (walk : LineWalk) (left : Nat) : Prop := walk.Bounded ∧ walk.offset + left < 2 ^ 61

theorem Room.step {walk : LineWalk} {left : Nat} (h : Room walk (left + 1)) (c : Char) :
    Room (walk.step c) left := by
  refine ⟨h.1.step c, ?_⟩
  have hlt := h.2
  simp only [LineWalk.step]
  omega

theorem Room.count_lt {walk : LineWalk} {left : Nat} (h : Room walk (left + 1)) :
    walk.offset + 1 < UInt64.size ∧ walk.location.line + 1 < UInt64.size ∧
      walk.location.column + 1 < UInt64.size := by
  obtain ⟨⟨hline, hcolumn, hsum, _⟩, hlt⟩ := h
  have hsize : 2 ^ 61 + 1 < UInt64.size := by decide
  omega

theorem Walk.returns_step (overflow : Overflow) {walk : Walk} {left : Nat}
    (h : Room walk.toLineWalk (left + 1)) (c : Char) :
    Returns (walk.step overflow c) fun next => next.toLineWalk = walk.toLineWalk.step c := by
  obtain ⟨hoffset, hline, hcolumn⟩ := h.count_lt
  apply (returns_sum_one overflow hoffset).bind
  intro offset ho
  by_cases hc : c = '\n'
  · rw [if_pos hc]
    apply (returns_sum_one overflow hline).bind
    intro line hl
    apply (returns_sum_one overflow hoffset).bind
    intro lineStart hs
    apply Returns.ok
    rw [Walk.toLineWalk, Place.toLineColumn, ho, hl, hs, hc, LineWalk.step_newline]
    rfl
  · rw [if_neg hc]
    apply (returns_sum_one overflow hcolumn).bind
    intro column hcol
    apply Returns.ok
    rw [Walk.toLineWalk, Place.toLineColumn, ho, hcol, LineWalk.step_of_ne _ hc]
    rfl

variable {text : List Char}

theorem Fits.returns_part_behind (h : Fits text) {offset : UInt64}
    (hle : offset.toNat ≤ text.length) :
    Returns (part text 0 offset) fun behind => behind = text.take offset.toNat :=
  h.returns_part (Nat.zero_le _) hle

theorem Fits.returns_part_ahead (h : Fits text) {offset : UInt64}
    (hle : offset.toNat ≤ text.length) :
    Returns (part text offset (lengthOf text)) fun ahead => ahead = text.drop offset.toNat := by
  have hlength := h.toNat_lengthOf
  apply (h.returns_part (by rwa [hlength]) (Nat.le_of_eq hlength)).mono
  intro ahead hahead
  rw [hahead, hlength, ← List.length_drop, List.take_length]

theorem Fits.room_start (h : Fits text) (offset : Nat) :
    Room .start (text.take offset).length := by
  refine ⟨LineWalk.bounded_start, ?_⟩
  have hle := List.length_take_le' offset text
  rw [Fits] at h
  simp only [LineWalk.start]
  omega

theorem Fits.returns_walkTo (h : Fits text) (overflow : Overflow) {offset : UInt64}
    (hle : offset.toNat ≤ text.length) :
    Returns (walkTo overflow text offset) fun walk =>
      walk.toLineWalk = .through (text.take offset.toNat) := by
  apply (h.returns_part_behind hle).bind
  rintro _ rfl
  apply Returns.foldlM Walk.toLineWalk Room
  · exact fun _ c _ hroom => Walk.returns_step overflow hroom c
  · exact fun _ c _ hroom => hroom.step c
  · exact h.room_start _

theorem Fits.returns_placeAt (h : Fits text) (overflow : Overflow) (offset : UInt64) :
    Returns (placeAt overflow text offset) fun place =>
      place.toLineColumn = lineColumnAt text offset.toNat := by
  have hlimit := h.toNat_min_lengthOf offset
  apply (h.returns_walkTo overflow (h.toNat_min_lengthOf_le offset)).bind
  intro walk hwalk
  apply Returns.ok
  rw [← lineColumnAt_min, ← hlimit]
  exact congrArg LineWalk.location hwalk

namespace PairOfPlaces

theorem map_noted (offset target : UInt64) (place : Place) (known : Option Place) :
    (if offset = target then some place else known).map Place.toLineColumn =
      if offset.toNat = target.toNat then some place.toLineColumn
      else known.map Place.toLineColumn := by
  simp only [apply_ite (Option.map Place.toLineColumn), Option.map_some, UInt64.toNat_inj]

theorem returns_step (overflow : Overflow) (start stop : UInt64) {pair : PairOfPlaces}
    {left : Nat} (h : Room pair.toPairWalk.walk (left + 1)) (c : Char) :
    Returns (pair.step overflow start stop c) fun next =>
      next.toPairWalk = pair.toPairWalk.step start.toNat stop.toNat c := by
  apply (Walk.returns_step overflow h c).bind
  intro walk hwalk
  apply Returns.ok
  rw [toPairWalk, hwalk, map_noted, map_noted]
  rfl

theorem locations_toPairWalk (pair : PairOfPlaces) :
    pair.toPairWalk.locations = pair.places.map Place.toLineColumn Place.toLineColumn := by
  have hend (noted? : Option Place) :
      (noted?.map Place.toLineColumn).getD pair.walk.place.toLineColumn =
        (noted?.getD pair.walk.place).toLineColumn :=
    Option.getD_map Place.toLineColumn pair.walk.place noted?
  exact Prod.ext (hend pair.start?) (hend pair.stop?)

end PairOfPlaces

theorem Fits.returns_placesAt (h : Fits text) (overflow : Overflow) (start stop : UInt64) :
    Returns (placesAt overflow text start stop) fun places =>
      places.map Place.toLineColumn Place.toLineColumn =
        lineColumnsAt text start.toNat stop.toNat := by
  have hlimit := h.toNat_min_lengthOf (max start stop)
  apply (h.returns_part_behind (h.toNat_min_lengthOf_le _)).bind
  rintro _ rfl
  rw [hlimit, UInt64.toNat_max, ← List.take_eq_take_min]
  have hloop := Returns.foldlM PairOfPlaces.toPairWalk (fun pair => Room pair.walk)
    (fun _ c _ hroom => PairOfPlaces.returns_step overflow start stop hroom c)
    (fun _ c _ hroom => hroom.step c) _ .start (h.room_start (max start.toNat stop.toNat))
  apply hloop.bind
  intro pair hpair
  apply Returns.ok
  rw [← PairOfPlaces.locations_toPairWalk, hpair]
  rfl

theorem length_takeWhile_ne_newline (ahead : List Char) :
    (ahead.takeWhile (· ≠ '\n')).length = (ahead.findIdx? (· = '\n')).getD ahead.length := by
  have hnot : (fun c : Char => !decide (c ≠ '\n')) = (· = '\n') := by simp
  rw [List.takeWhile_eq_take_findIdx_not, hnot, List.length_take, ← List.findIdx_eq_getD_findIdx?]
  exact Nat.min_eq_left List.findIdx_le_length

theorem Fits.returns_lineEndFrom (h : Fits text) (overflow : Overflow) {offset : UInt64}
    (hle : offset.toNat ≤ text.length) :
    Returns (lineEndFrom overflow text offset) fun stop =>
      stop.toNat = offset.toNat +
        ((text.drop offset.toNat).takeWhile (· ≠ '\n')).length := by
  apply (h.returns_part_ahead hle).bind
  rintro _ rfl
  rw [length_takeWhile_ne_newline]
  cases hfound : (text.drop offset.toNat).findIdx? (· = '\n') with
  | none =>
    apply Returns.ok
    rw [h.toNat_lengthOf, Option.getD_none, List.length_drop, Nat.add_sub_cancel' hle]
  | some newline =>
    obtain ⟨hlt, _⟩ := List.findIdx?_eq_some_iff_findIdx_eq.1 hfound
    rw [List.length_drop] at hlt
    have hlength := h.length_lt
    have hnewline : (UInt64.ofNat newline).toNat = newline :=
      UInt64.toNat_ofNat_of_lt' (by omega)
    apply (returns_sum overflow (by omega)).mono
    intro stop hstop
    rw [hstop, hnewline, Option.getD_some]

theorem Fits.returns_boundsAt (h : Fits text) (overflow : Overflow) (offset : UInt64) :
    Returns (boundsAt overflow text offset) fun bounds =>
      bounds.toLineBounds = lineBoundsAt text offset.toNat := by
  have hlimit := h.toNat_min_lengthOf offset
  have hle := h.toNat_min_lengthOf_le offset
  apply (h.returns_walkTo overflow hle).bind
  intro walk hwalk
  apply (h.returns_lineEndFrom overflow hle).bind
  intro stop hstop
  apply Returns.ok
  have hoffset := LineWalk.offset_through_take text (min offset (lengthOf text)).toNat
  rw [Nat.min_eq_left hle] at hoffset
  rw [Bounds.toLineBounds, hstop, ← lineBoundsAt_min, ← hlimit, lineBoundsAt]
  rw [hoffset, ← hwalk]
  rfl

end TextLocation.Word
