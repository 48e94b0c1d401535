import TextLocation.Proofs.Bounds
import TextLocation.Proofs.Insertion
import TextLocation.Proofs.Ordering
import TextLocation.Proofs.Scanner.Reads

namespace TextLocation

/-- Equality and hash go by the same numbers of a value: equal values are those for which the
numbers are the same, and the hash is that of the numbers, in order, and of nothing else. -/
structure HashedBy {α : Type} [BEq α] [Hashed α] [Hashable α] (numbers : α → List Nat) : Prop where
  numbers_eq : ∀ a : α, Hashed.numbers a = numbers a
  hash_eq : ∀ a : α, hash a = hash (numbers a)
  beq_iff : ∀ a b : α, (a == b) = true ↔ numbers a = numbers b
  equivalence : Equivalence fun a b : α => (a == b) = true

theorem HashedBy.of_lawful {α : Type} [BEq α] [Hashed α] [LawfulHashed α] :
    HashedBy fun a : α => Hashed.numbers a where
  numbers_eq _ := rfl
  hash_eq _ := rfl
  beq_iff _ _ := LawfulHashed.beq_iff_numbers
  equivalence := ⟨fun _ => BEq.rfl, BEq.symm, BEq.trans⟩

/-- A comparison that answers for values of the same kind only, and orders those of each kind. -/
structure OrdersEach {α : Type} [BEq α] (same : α → α → Prop)
    (compare? : α → α → Option Ordering) : Prop where
  isSome_iff : ∀ a b, (compare? a b).isSome = true ↔ same a b
  eq_iff : ∀ a b, compare? a b = some .eq ↔ (a == b) = true
  swap : ∀ a b, compare? b a = (compare? a b).map Ordering.swap
  trans : ∀ a b c order, compare? a b = some order → compare? b c = some order →
    compare? a c = some order

/-- A set finds those values new that are equal to none before, one for each key. -/
structure FindsNew {α κ : Type} [BEq α] [Hashable α] [DecidableEq κ] (key : α → κ) : Prop where
  eq_newAmong : ∀ values : List α, firstSeen values = newAmong [] values
  count_eq : ∀ values : List α,
    (firstSeen values).count true = (values.map key).toFinset.card

theorem FindsNew.of_beq_iff {α κ : Type} [BEq α] [Hashable α] [EquivBEq α] [LawfulHashable α]
    [DecidableEq κ] {key : α → κ} (hkey : ∀ a b : α, (a == b) = true ↔ key a = key b) :
    FindsNew key where
  eq_newAmong := firstSeen_eq
  count_eq := count_firstSeen hkey

namespace Item

def position? : Item → Option Position
  | .position p => some p
  | _ => none

def span? : Item → Option Span
  | .span a => some a
  | _ => none

def run? : Item → Option Run
  | .run x => some x
  | _ => none

/-- A set of values of all kinds finds those of one kind new that a set of them alone does. -/
def FindsAlone {β : Type} [BEq β] [Hashable β] (get? : Item → Option β) : Prop :=
  ∀ items : List Item, answersFor get? items (firstSeen items) =
    (items.filterMap get?).zip (firstSeen (items.filterMap get?))

theorem findsAlone {β : Type} [BEq β] [Hashable β] [EquivBEq β] [LawfulHashable β]
    {get? : Item → Option β}
    (hget : ∀ x a b, get? a = some b → (x == a) = (get? x).any (· == b)) : FindsAlone get? := by
  intro items
  rw [firstSeen_eq, firstSeen_eq, answersFor_newAmong hget]
  rfl

theorem findsAlone_position? : FindsAlone position? :=
  findsAlone fun x a _ hb => by
    cases a <;> cases hb
    cases x <;> rfl

theorem findsAlone_span? : FindsAlone span? :=
  findsAlone fun x a _ hb => by
    cases a <;> cases hb
    cases x <;> rfl

theorem findsAlone_run? : FindsAlone run? :=
  findsAlone fun x a _ hb => by
    cases a <;> cases hb
    cases x <;> rfl

end Item

theorem Position.ordersEach : OrdersEach (fun p q => p.source.id = q.source.id) compare? where
  isSome_iff _ _ := isSome_compare?_iff
  eq_iff _ _ := compare?_eq_eq_iff
  swap := compare?_swap
  trans _ _ _ _ h h' := compare?_trans h h'

theorem Position.beq_foreign {p q : Position} (h : p.source.id ≠ q.source.id) :
    (p == q) = false := by
  rw [Bool.eq_false_iff]
  exact fun he => h (beq_iff.1 he).1

theorem Span.beq_foreign {a b : Span} (h : a.source.id ≠ b.source.id) : (a == b) = false := by
  rw [Bool.eq_false_iff]
  exact fun he => h (beq_iff.1 he).1

theorem Source.shows_of_slice {source : Source} {start stop : Nat} {run : Run}
    (h : source.slice start stop = .ok run) : source.Shows start stop run := by
  by_cases hle : start ≤ stop ∧ stop ≤ source.length
  · obtain ⟨run', hrun, hshows⟩ := (source.readsOn_slice start stop).value hle
    obtain rfl := Except.ok.inj (h.symm.trans hrun)
    exact hshows
  · rw [(source.readsOn_slice start stop).refused hle] at h
    cases h

theorem Source.Shows.charAt_eq {source : Source} {start stop : Nat} {run : Run}
    (h : source.Shows start stop run) {i : Nat} (hi : i < run.chars.length) :
    source.charAt (start + i) = .ok run.chars[i] := by
  obtain ⟨hlength, hchars⟩ := h
  obtain ⟨c, hc, hat⟩ := hchars i (by rwa [← hlength])
  rw [List.getElem?_eq_getElem hi] at hc
  rw [hat, Option.some.inj hc]

/-- Slices are equal when they show the same characters, wherever these stand. -/
theorem Span.beq_slices_iff {a b : Span} {x y : Run} (hx : a.slice = .ok x)
    (hy : b.slice = .ok y) :
    (x == y) = true ↔
      a.length = b.length ∧
        ∀ i < a.length, a.source.charAt (a.start + i) = b.source.charAt (b.start + i) := by
  have hxs := Source.shows_of_slice hx
  have hys := Source.shows_of_slice hy
  have hxl : x.chars.length = a.length := hxs.1
  have hyl : y.chars.length = b.length := hys.1
  rw [Run.beq_iff, List.ext_getElem_iff, ← hxl, ← hyl]
  apply and_congr_right
  intro hlength
  constructor
  · intro h i hi
    have hi' : i < y.chars.length := hlength ▸ hi
    rw [hxs.charAt_eq hi, hys.charAt_eq hi', h i hi hi']
  · intro h i hi hi'
    have hat := h i hi
    rw [hxs.charAt_eq hi, hys.charAt_eq hi'] at hat
    exact Except.ok.inj hat

namespace Library

theorem length_foldl_add (library : Library) (entries : List (String × String)) :
    (entries.foldl (fun library entry => library.add entry.1 entry.2) library).sources.length =
      library.sources.length + entries.length := by
  induction entries generalizing library with
  | nil => rfl
  | cons entry entries ih =>
    rw [List.foldl_cons, ih, add, List.length_append, List.length_cons, List.length_cons]
    simp only [List.length_nil]
    omega

theorem length_ofList (entries : List (String × String)) :
    (ofList entries).sources.length = entries.length :=
  (length_foldl_add empty entries).trans (Nat.zero_add _)

/-- Sources of different numbers have different identities, also if they have the same name and
text. -/
theorem Numbered.id_ne {library : Library} (h : library.Numbered)
    (hlen : library.sources.length ≤ SourceId.count) {i j : Nat} {source other : Source}
    (hi : library.get? i = some source) (hj : library.get? j = some other) (hne : i ≠ j) :
    source.id ≠ other.id := by
  obtain ⟨hilt, _⟩ := List.getElem?_eq_some_iff.1 hi
  obtain ⟨hjlt, _⟩ := List.getElem?_eq_some_iff.1 hj
  rw [h i source hi, h j other hj, Ne, SourceId.mk.injEq, Nat.mod_eq_of_lt (by omega),
    Nat.mod_eq_of_lt (by omega)]
  exact hne

end Library

/-- Positions and spans are told apart by the identity of their source and by offsets, runs by their
characters. Equality, hash and order agree on this, and so does what a set finds to be new. -/
structure LawfulIdentities : Prop where
  positions_hashed : HashedBy fun p : Position => [p.source.id.number, p.offset]
  spans_hashed : HashedBy fun a : Span => [a.source.id.number, a.start, a.stop]
  runs_hashed : HashedBy fun x : Run => x.length :: x.chars.map Char.toNat
  items_hashed : HashedBy fun item : Item => Hashed.numbers item
  positions_foreign : ∀ p q : Position, p.source.id ≠ q.source.id → (p == q) = false
  spans_foreign : ∀ a b : Span, a.source.id ≠ b.source.id → (a == b) = false
  positions_ordered : OrdersEach (fun p q => p.source.id = q.source.id) Position.compare?
  le_trans : ∀ p q r : Position, p ≤ q → q ≤ r → p ≤ r
  le_total : ∀ p q : Position, p.source.id = q.source.id → p ≤ q ∨ q ≤ p
  runs_beq_iff : ∀ x y : Run, (x == y) = true ↔ x.chars = y.chars
  slices_beq_iff : ∀ (a b : Span) (x y : Run), a.slice = .ok x → b.slice = .ok y →
    ((x == y) = true ↔
      a.length = b.length ∧
        ∀ i < a.length, a.source.charAt (a.start + i) = b.source.charAt (b.start + i))
  positions_new : FindsNew fun p : Position => (p.source.id, p.offset)
  spans_new : FindsNew fun a : Span => (a.source.id, a.start, a.stop)
  runs_new : FindsNew Run.chars
  items_new : FindsNew fun item : Item => Hashed.numbers item
  positions_alone : Item.FindsAlone Item.position?
  spans_alone : Item.FindsAlone Item.span?
  runs_alone : Item.FindsAlone Item.run?
  /-- Sources made one after another are told apart, also if they have the same name and text. -/
  sources_apart : ∀ entries : List (String × String), entries.length ≤ SourceId.count →
    ∀ (i j : Nat) (source other : Source), (Library.ofList entries).get? i = some source →
      (Library.ofList entries).get? j = some other → i ≠ j →
        ∀ start stop start' stop',
          (Position.mk source start == ⟨other, start'⟩) = false ∧
            (Position.mk source start).compare? ⟨other, start'⟩ = none ∧
            (Span.mk source start stop == ⟨other, start', stop'⟩) = false

theorem identities_lawful : LawfulIdentities where
  positions_hashed := .of_lawful
  spans_hashed := .of_lawful
  runs_hashed := .of_lawful
  items_hashed := .of_lawful
  positions_foreign _ _ := Position.beq_foreign
  spans_foreign _ _ := Span.beq_foreign
  positions_ordered := Position.ordersEach
  le_trans _ _ _ := Position.le_trans
  le_total _ _ := Position.le_total
  runs_beq_iff _ _ := Run.beq_iff
  slices_beq_iff _ _ _ _ := Span.beq_slices_iff
  positions_new := .of_beq_iff fun _ _ => by rw [Position.beq_iff, Prod.mk.injEq]
  spans_new := .of_beq_iff fun _ _ => by rw [Span.beq_iff, Prod.mk.injEq, Prod.mk.injEq]
  runs_new := .of_beq_iff fun _ _ => Run.beq_iff
  items_new := .of_beq_iff fun _ _ => LawfulHashed.beq_iff_numbers
  positions_alone := Item.findsAlone_position?
  spans_alone := Item.findsAlone_span?
  runs_alone := Item.findsAlone_run?
  sources_apart := by
    intro entries hlen i j source other hi hj hne start stop start' stop'
    have hid : source.id ≠ other.id :=
      (Library.numbered_ofList entries).id_ne ((Library.length_ofList entries).trans_le hlen)
        hi hj hne
    exact ⟨Position.beq_foreign hid, if_neg hid, Span.beq_foreign hid⟩

/-- Two sources with one name and one text: their positions differ, their runs do not. -/
theorem identities_lawful_twins :
    let entries := [("f", "ab"), ("f", "ab")]
    let source : Source := ⟨⟨0⟩, "f", ['a', 'b']⟩
    let twin : Source := ⟨⟨1⟩, "f", ['a', 'b']⟩
    entries.length ≤ SourceId.count ∧
      (Library.ofList entries).get? 0 = some source ∧
      (Library.ofList entries).get? 1 = some twin ∧
      (Position.mk source 1 == ⟨twin, 1⟩) = false ∧
      (Position.mk source 1).compare? ⟨twin, 1⟩ = none ∧
      (firstSeen [Position.mk source 1, ⟨twin, 1⟩, ⟨source, 1⟩]).count true = 2 ∧
      hash (Position.mk twin 1) = hash [1, 1] ∧
      (Span.mk source 0 2).slice = .ok ⟨['a', 'b']⟩ ∧
      (Span.mk twin 0 2).slice = .ok ⟨['a', 'b']⟩ ∧
      (firstSeen [Run.mk ['a', 'b'], ⟨['a']⟩, ⟨['a', 'b']⟩]).count true = 2 := by
  intro entries source twin
  have hlen : entries.length ≤ SourceId.count := by decide
  obtain ⟨hne, hcompare, _⟩ :=
    identities_lawful.sources_apart entries hlen 0 1 source twin rfl rfl Nat.zero_ne_one 1 1 1 1
  exact ⟨hlen, rfl, rfl, hne, hcompare, identities_lawful.positions_new.count_eq _,
    identities_lawful.positions_hashed.hash_eq _, rfl, rfl, identities_lawful.runs_new.count_eq _⟩

end TextLocation
