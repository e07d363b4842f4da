/-!
Values under distinct names, in rising order of the names. Two catalogs with the same entries are
equal, whatever the order in which those were entered.
-/
namespace Inquiry

structure Catalog (α : Type) where
  entries : List (String × α)
  rising : entries.Pairwise fun first second => first.1 < second.1

namespace Catalog

variable {α β : Type}

def place (name : String) (value : α) : List (String × α) → List (String × α)
  | [] => [(name, value)]
  | (other, old) :: rest =>
    if name < other then (name, value) :: (other, old) :: rest
    else if other = name then (name, value) :: rest
    else (other, old) :: place name value rest

theorem mem_place {name : String} {value : α} {entries : List (String × α)} {entry : String × α}
    (member : entry ∈ place name value entries) : entry = (name, value) ∨ entry ∈ entries := by
  induction entries with
  | nil => exact .inl (List.mem_singleton.1 member)
  | cons head rest ih =>
    obtain ⟨other, old⟩ := head
    simp only [place] at member
    split at member
    · simpa using member
    · split at member
      · exact (List.mem_cons.1 member).imp_right (List.mem_cons_of_mem _)
      · rcases List.mem_cons.1 member with here | there
        · exact .inr (here ▸ List.mem_cons_self)
        · exact (ih there).imp_right (List.mem_cons_of_mem _)

theorem place_rising {name : String} {value : α} {entries : List (String × α)}
    (rising : entries.Pairwise fun first second => first.1 < second.1) :
    (place name value entries).Pairwise fun first second => first.1 < second.1 := by
  induction entries with
  | nil => exact List.pairwise_singleton _ _
  | cons head rest ih =>
    obtain ⟨other, old⟩ := head
    obtain ⟨above, restRising⟩ := List.pairwise_cons.1 rising
    simp only [place]
    split
    case isTrue before =>
      refine List.pairwise_cons.2 ⟨fun entry member => ?_, rising⟩
      rcases List.mem_cons.1 member with here | there
      · exact here ▸ before
      · exact String.lt_trans before (above entry there)
    case isFalse notBefore =>
      split
      case isTrue same => exact List.pairwise_cons.2 ⟨fun entry member => same ▸ above entry member, restRising⟩
      case isFalse different =>
        refine List.pairwise_cons.2 ⟨fun entry member => ?_, ih restRising⟩
        rcases mem_place member with here | there
        · have notAfter : ¬ name ≤ other := fun le =>
            different (String.le_antisymm (String.not_lt.1 notBefore) le)
          exact here ▸ String.not_le.1 notAfter
        · exact above entry there

def empty : Catalog α := ⟨[], .nil⟩

def insert (catalog : Catalog α) (name : String) (value : α) : Catalog α :=
  ⟨place name value catalog.entries, place_rising catalog.rising⟩

/-- A later entry of a name replaces an earlier one. -/
def ofList (entries : List (String × α)) : Catalog α :=
  entries.foldl (fun catalog (name, value) => catalog.insert name value) empty

def get? (catalog : Catalog α) (name : String) : Option α :=
  (catalog.entries.find? fun entry => entry.1 = name).map (·.2)

def contains (catalog : Catalog α) (name : String) : Bool := (catalog.get? name).isSome

def size (catalog : Catalog α) : Nat := catalog.entries.length

def names (catalog : Catalog α) : List String := catalog.entries.map (·.1)

end Catalog
end Inquiry
