import Mathlib.Algebra.Group.Nat.Defs
import Mathlib.Data.List.Basic
import TextLocation.Proofs.Word

namespace TextLocation.Word

/-- What stops a computation on words. -/
inductive Fault where
  /-- A sum or a difference is no word. -/
  | overflow
  /-- A part of a text was asked for that the text does not have. -/
  | outOfBounds
  deriving DecidableEq

/-- What becomes of a sum or a difference that is no word. -/
inductive Overflow where
  | faults
  | wraps
  deriving DecidableEq

def sum (overflow : Overflow) (a b : UInt64) : Except Fault UInt64 :=
  match overflow with
  | .faults => if a.toNat + b.toNat < UInt64.size then .ok (a + b) else .error .overflow
  | .wraps => .ok (a + b)

def difference (overflow : Overflow) (a b : UInt64) : Except Fault UInt64 :=
  match overflow with
  | .faults => if b ≤ a then .ok (a - b) else .error .overflow
  | .wraps => .ok (a - b)

/-- The difference of two words, or zero if the difference is none. -/
def saturatingSub (a b : UInt64) : UInt64 := if b ≤ a then a - b else 0

/-- The texts that a memory of 64-bit words can hold. -/
def Fits (text : List Char) : Prop := text.length < 2 ^ 61

instance (text : List Char) : Decidable (Fits text) := inferInstanceAs (Decidable (_ < _))

def lengthOf (text : List Char) : UInt64 := .ofNat text.length

/-- The characters from `start` up to `stop`, which must be a stretch of the text. -/
def part (text : List Char) (start stop : UInt64) : Except Fault (List Char) :=
  if start ≤ stop ∧ stop ≤ lengthOf text then
    .ok ((text.drop start.toNat).take (stop.toNat - start.toNat))
  else .error .outOfBounds

/-- The computation does not fault, and what it returns has the property. -/
def Returns {α : Type} (result : Except Fault α) (property : α → Prop) : Prop :=
  ∃ a, result = .ok a ∧ property a

namespace Returns

variable {α β γ : Type} {result : Except Fault α} {P : α → Prop} {Q : β → Prop}

theorem ok {a : α} (h : P a) : Returns (.ok a) P := ⟨a, rfl, h⟩

theorem bind (h : Returns result P) {next : α → Except Fault β}
    (hnext : ∀ a, P a → Returns (next a) Q) : Returns (result >>= next) Q := by
  obtain ⟨a, rfl, ha⟩ := h
  exact hnext a ha

theorem mono (h : Returns result P) {P' : α → Prop} (himp : ∀ a, P a → P' a) :
    Returns result P' := by
  obtain ⟨a, ha, hp⟩ := h
  exact ⟨a, ha, himp a hp⟩

/-- A loop keeps step with another one if each of its rounds does. What the rounds need to be
possible may depend on how many of them are still to come. -/
theorem foldlM (view : β → γ) (room : γ → Nat → Prop) {round : β → α → Except Fault β}
    {step : γ → α → γ}
    (hround : ∀ b a left, room (view b) (left + 1) →
      Returns (round b a) fun next => view next = step (view b) a)
    (hroom : ∀ c a left, room c (left + 1) → room (step c a) left)
    (items : List α) (b : β) (h : room (view b) items.length) :
    Returns (items.foldlM round b) fun last => view last = items.foldl step (view b) := by
  induction items generalizing b with
  | nil => exact ok rfl
  | cons a items ih =>
    rw [List.foldlM_cons, List.foldl_cons]
    apply (hround b a items.length h).bind
    intro next hnext
    rw [← hnext]
    apply ih
    rw [hnext]
    exact hroom _ _ _ h

end Returns

variable {a b : UInt64} {text : List Char}

theorem returns_sum (overflow : Overflow) (h : a.toNat + b.toNat < UInt64.size) :
    Returns (sum overflow a b) fun c => c.toNat = a.toNat + b.toNat := by
  cases overflow with
  | faults => exact ⟨a + b, if_pos h, toNat_add_of_lt h⟩
  | wraps => exact ⟨a + b, rfl, toNat_add_of_lt h⟩

theorem returns_sum_one (overflow : Overflow) (h : a.toNat + 1 < UInt64.size) :
    Returns (sum overflow a 1) fun c => c.toNat = a.toNat + 1 :=
  returns_sum overflow h

theorem returns_difference (overflow : Overflow) (h : b.toNat ≤ a.toNat) :
    Returns (difference overflow a b) fun c => c.toNat = a.toNat - b.toNat := by
  have hle : b ≤ a := UInt64.le_iff_toNat_le.2 h
  cases overflow with
  | faults => exact ⟨a - b, if_pos hle, UInt64.toNat_sub_of_le _ _ hle⟩
  | wraps => exact ⟨a - b, rfl, UInt64.toNat_sub_of_le _ _ hle⟩

/-- A sum that faults rather than wrap is the sum of the numbers wherever there is one. -/
theorem toNat_of_sum_eq_ok {c : UInt64} (h : sum .faults a b = .ok c) :
    c.toNat = a.toNat + b.toNat := by
  simp only [sum] at h
  split at h
  · next hlt =>
    cases h
    exact toNat_add_of_lt hlt
  · cases h

theorem toNat_of_difference_eq_ok {c : UInt64} (h : difference .faults a b = .ok c) :
    c.toNat + b.toNat = a.toNat := by
  simp only [difference] at h
  split at h
  · next hle =>
    cases h
    rw [UInt64.toNat_sub_of_le _ _ hle]
    exact Nat.sub_add_cancel (UInt64.le_iff_toNat_le.1 hle)
  · cases h

theorem toNat_saturatingSub (a b : UInt64) : (saturatingSub a b).toNat = a.toNat - b.toNat := by
  rw [saturatingSub]
  split
  · next hle => exact UInt64.toNat_sub_of_le _ _ hle
  · next hle =>
    rw [UInt64.le_iff_toNat_le] at hle
    exact (Nat.sub_eq_zero_of_le (Nat.le_of_not_le hle)).symm

theorem Fits.length_lt (h : Fits text) : text.length < UInt64.size :=
  Nat.lt_trans h (by decide)

theorem Fits.toNat_lengthOf (h : Fits text) : (lengthOf text).toNat = text.length :=
  UInt64.toNat_ofNat_of_lt' h.length_lt

theorem Fits.toNat_min_lengthOf (h : Fits text) (offset : UInt64) :
    (min offset (lengthOf text)).toNat = min offset.toNat text.length := by
  rw [UInt64.toNat_min, h.toNat_lengthOf]

theorem Fits.toNat_min_lengthOf_le (h : Fits text) (offset : UInt64) :
    (min offset (lengthOf text)).toNat ≤ text.length := by
  rw [h.toNat_min_lengthOf]
  exact Nat.min_le_right _ _

theorem Fits.returns_part (h : Fits text) {start stop : UInt64}
    (hle : start.toNat ≤ stop.toNat) (hstop : stop.toNat ≤ text.length) :
    Returns (part text start stop) fun chars =>
      chars = (text.drop start.toNat).take (stop.toNat - start.toNat) := by
  rw [← h.toNat_lengthOf] at hstop
  exact ⟨_, if_pos ⟨UInt64.le_iff_toNat_le.2 hle, UInt64.le_iff_toNat_le.2 hstop⟩, rfl⟩

end TextLocation.Word
