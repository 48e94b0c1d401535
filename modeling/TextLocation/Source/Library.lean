import TextLocation.Source.Basic

namespace TextLocation

/-- Sources numbered from zero in the order of adding. When all identities have been given out, the
numbering starts over. -/
structure Library where
  sources : List Source

namespace Library

def empty : Library := ⟨[]⟩

def add (library : Library) (name text : String) : Library :=
  ⟨library.sources ++ [⟨⟨library.sources.length % SourceId.count⟩, name, text.toList⟩]⟩

/-- The library of a list of names and texts. -/
def ofList (entries : List (String × String)) : Library :=
  entries.foldl (fun library entry => library.add entry.1 entry.2) empty

def get? (library : Library) (number : Nat) : Option Source := library.sources[number]?

/-- Every source of the library is numbered by its place, modulo the number of identities. -/
def Numbered (library : Library) : Prop :=
  ∀ number source, library.get? number = some source → source.id = ⟨number % SourceId.count⟩

theorem numbered_empty : empty.Numbered := by
  intro number source h
  simp [get?, empty] at h

theorem Numbered.add {library : Library} (h : library.Numbered) (name text : String) :
    (library.add name text).Numbered := by
  intro number source hget
  simp only [get?, Library.add, List.getElem?_append] at hget
  split at hget
  · exact h number source hget
  · next hlen =>
    cases hk : number - library.sources.length with
    | zero =>
      rw [hk] at hget
      simp only [List.getElem?_cons_zero, Option.some.injEq] at hget
      have he : number = library.sources.length := by omega
      rw [← hget, he]
    | succ k => simp [hk] at hget

theorem numbered_foldl_add {library : Library} (h : library.Numbered)
    (entries : List (String × String)) :
    (entries.foldl (fun library entry => library.add entry.1 entry.2) library).Numbered := by
  induction entries generalizing library with
  | nil => exact h
  | cons entry entries ih => exact ih (h.add _ _)

theorem numbered_ofList (entries : List (String × String)) : (ofList entries).Numbered :=
  numbered_foldl_add numbered_empty entries

end Library

end TextLocation
