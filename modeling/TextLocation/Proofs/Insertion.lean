import Mathlib.Data.Finset.Card
import TextLocation.Identity

namespace TextLocation

variable {α β κ : Type}

/-- The values of one kind, each with the answer that stands where it stands. -/
def answersFor (get? : α → Option β) (values : List α) (answers : List Bool) : List (β × Bool) :=
  (values.zip answers).filterMap fun (a, new) => (get? a).map (·, new)

section

variable {get? : α → Option β}

theorem answersFor_cons_none {a : α} (ha : get? a = none) (new : Bool) (rest : List α)
    (answers : List Bool) :
    answersFor get? (a :: rest) (new :: answers) = answersFor get? rest answers :=
  List.filterMap_cons_none (by simp only [ha, Option.map_none])

theorem answersFor_cons_some {a : α} {b : β} (ha : get? a = some b) (new : Bool) (rest : List α)
    (answers : List Bool) :
    answersFor get? (a :: rest) (new :: answers) = (b, new) :: answersFor get? rest answers :=
  List.filterMap_cons_some (by simp only [ha, Option.map_some])

end

variable [BEq α]

/-- For each value in turn, whether it is equal to none of those before it, found by comparing it
with every one of them. -/
def newAmong (before : List α) : List α → List Bool
  | [] => []
  | a :: rest => (!before.any (· == a)) :: newAmong (a :: before) rest

section

variable [Hashable α] [EquivBEq α] [LawfulHashable α]

/-- A set that holds the values before answers as they would. -/
theorem newlyInserted_eq {known : Std.HashSet α} {before : List α}
    (h : ∀ a, known.contains a = before.any (· == a)) (values : List α) :
    newlyInserted known values = newAmong before values := by
  induction values generalizing known before with
  | nil => rfl
  | cons a rest ih =>
    have hinsert : ∀ b, (known.insert a).contains b = (a :: before).any (· == b) := by
      intro b
      rw [Std.HashSet.contains_insert, h, List.any_cons]
    rw [newlyInserted, newAmong, h, ih hinsert]

theorem firstSeen_eq (values : List α) : firstSeen values = newAmong [] values :=
  newlyInserted_eq (fun _ => Std.HashSet.contains_empty) values

end

section

variable [BEq β] {get? : α → Option β}
  (hget : ∀ x a b, get? a = some b → (x == a) = (get? x).any (· == b))

include hget

theorem any_filterMap_beq (before : List α) {a : α} {b : β} (hb : get? a = some b) :
    (before.filterMap get?).any (· == b) = before.any (· == a) := by
  induction before with
  | nil => rfl
  | cons x before ih =>
    rw [List.any_cons, hget x a b hb, ← ih, List.filterMap_cons]
    cases get? x with
    | none => rfl
    | some c => rfl

/-- Values of other kinds make no difference. -/
theorem answersFor_newAmong (before values : List α) :
    answersFor get? values (newAmong before values) =
      (values.filterMap get?).zip (newAmong (before.filterMap get?) (values.filterMap get?)) := by
  induction values generalizing before with
  | nil => rfl
  | cons a rest ih =>
    rw [newAmong]
    cases hb : get? a with
    | none =>
      rw [answersFor_cons_none hb, ih, List.filterMap_cons_none hb, List.filterMap_cons_none hb]
    | some b =>
      rw [answersFor_cons_some hb, ih, List.filterMap_cons_some hb, List.filterMap_cons_some hb,
        newAmong, any_filterMap_beq hget before hb, List.zip_cons_cons]

end

variable [DecidableEq κ] {key : α → κ} (hkey : ∀ a b : α, (a == b) = true ↔ key a = key b)

include hkey

theorem any_beq_iff (before : List α) (a : α) :
    before.any (· == a) = true ↔ key a ∈ (before.map key).toFinset := by
  rw [List.any_eq_true, List.mem_toFinset, List.mem_map]
  simp only [hkey]

/-- As many values are new as there are keys that none before has. -/
theorem count_newAmong (before values : List α) :
    (newAmong before values).count true =
      ((values.map key).toFinset \ (before.map key).toFinset).card := by
  induction values generalizing before with
  | nil =>
    rw [List.map_nil, List.toFinset_nil, Finset.empty_sdiff]
    rfl
  | cons a rest ih =>
    have hany := any_beq_iff hkey before a
    rw [newAmong, List.count_cons, ih, List.map_cons, List.map_cons, List.toFinset_cons,
      List.toFinset_cons]
    by_cases hmem : key a ∈ (before.map key).toFinset
    · rw [hany.2 hmem, Finset.insert_sdiff_of_mem _ hmem, Finset.insert_eq_of_mem hmem]
      rfl
    · have hnew : key a ∈ insert (key a) (rest.map key).toFinset \ (before.map key).toFinset :=
        Finset.mem_sdiff.2 ⟨Finset.mem_insert_self _ _, hmem⟩
      rw [Bool.eq_false_iff.2 fun h => hmem (hany.1 h), ← Finset.card_erase_add_one hnew,
        ← Finset.sdiff_insert, Finset.insert_sdiff_insert]
      rfl

theorem count_firstSeen [Hashable α] [EquivBEq α] [LawfulHashable α] (values : List α) :
    (firstSeen values).count true = (values.map key).toFinset.card := by
  rw [firstSeen_eq, count_newAmong hkey, List.map_nil, List.toFinset_nil, Finset.sdiff_empty]

end TextLocation
