import Inquiry.Catalog
import Mathlib.Data.List.Sort

/-! What a catalog has under each name, which is all there is to it. -/
namespace Inquiry.Catalog

variable {α : Type} {catalog : Catalog α} {entries : List (String × α)} {name other : String}
  {value : α}

theorem find_place : (place name value entries).find? (fun entry => entry.1 = other) =
    if name = other then some (name, value) else entries.find? fun entry => entry.1 = other := by
  induction entries with
  | nil => by_cases same : name = other <;> simp [place, same]
  | cons head rest ih =>
    obtain ⟨here, old⟩ := head
    unfold place
    split
    · by_cases same : name = other <;> simp [same]
    · split
      next taken =>
        subst taken
        by_cases same : here = other <;> simp [same]
      next free =>
        by_cases found : here = other
        · have different : name ≠ other := fun same => free (found.trans same.symm)
          simp [found, different]
        · simp only [List.find?_cons, found, decide_false, ih]

@[simp] theorem get?_empty : (empty : Catalog α).get? name = none := rfl

theorem get?_insert : (catalog.insert name value).get? other =
    if name = other then some value else catalog.get? other := by
  simp only [get?, insert, find_place]
  split <;> rfl

/-- Under distinct names, the first entry of a name is the only one. -/
theorem find_named (distinct : (entries.map (·.1)).Nodup) :
    (entries.find? fun entry => entry.1 = name).map (·.2) = some value ↔
      (name, value) ∈ entries := by
  induction entries with
  | nil => simp
  | cons head rest ih =>
    obtain ⟨here, old⟩ := head
    obtain ⟨fresh, distinctRest⟩ := List.nodup_cons.1 distinct
    by_cases found : here = name
    · subst found
      have absent : (here, value) ∉ rest := fun member =>
        fresh (List.mem_map_of_mem (f := (·.1)) member)
      simp [absent, eq_comm]
    · have apart : (name, value) ≠ (here, old) := fun same => found (Prod.mk.inj same).1.symm
      rw [List.find?_cons_of_neg (by simpa using found), ih distinctRest, List.mem_cons]
      exact ⟨.inr, fun member => member.resolve_left apart⟩

theorem names_distinct (catalog : Catalog α) : (catalog.entries.map (·.1)).Nodup := by
  refine List.pairwise_map.2 (catalog.rising.imp fun before same => ?_)
  rw [same] at before
  exact String.lt_irrefl _ before

theorem get?_iff : catalog.get? name = some value ↔ (name, value) ∈ catalog.entries :=
  find_named catalog.names_distinct

@[ext] theorem ext {first second : Catalog α} (same : ∀ name, first.get? name = second.get? name) :
    first = second := by
  obtain ⟨entries, rising⟩ := first
  obtain ⟨others, risingOthers⟩ := second
  have members : ∀ entry, entry ∈ entries ↔ entry ∈ others := fun ⟨name, value⟩ => by
    have first := @get?_iff _ ⟨entries, rising⟩ name value
    have second := @get?_iff _ ⟨others, risingOthers⟩ name value
    rw [← first, ← second, same name]
  have asymmetric : Std.Antisymm fun first second : String × α => first.1 < second.1 :=
    ⟨fun _ _ before after => absurd after (String.lt_asymm before)⟩
  have irreflexive : Std.Irrefl fun first second : String × α => first.1 < second.1 :=
    ⟨fun entry => String.lt_irrefl entry.1⟩
  cases rising.eq_of_mem_iff risingOthers members
  rfl

theorem get?_ofList (distinct : (entries.map (·.1)).Nodup) :
    (ofList entries).get? name = (entries.find? fun entry => entry.1 = name).map (·.2) := by
  suffices gathered : ∀ known : Catalog α,
      (entries.foldl (fun catalog entry => catalog.insert entry.1 entry.2) known).get? name =
        ((entries.find? fun entry => entry.1 = name).map (·.2)).or (known.get? name) by
    exact (gathered empty).trans (by simp)
  induction entries with
  | nil => intro known; rfl
  | cons head rest ih =>
    intro known
    obtain ⟨here, old⟩ := head
    obtain ⟨fresh, distinctRest⟩ := List.nodup_cons.1 distinct
    rw [List.foldl_cons, ih distinctRest, get?_insert]
    by_cases found : here = name
    · subst found
      have absent : rest.find? (fun entry => entry.1 = here) = none :=
        List.find?_eq_none.2 fun entry member same =>
          fresh (by simpa [of_decide_eq_true same] using List.mem_map_of_mem (f := (·.1)) member)
      simp [absent]
    · simp [found]

theorem ofList_entries (catalog : Catalog α) : ofList catalog.entries = catalog :=
  ext fun _ => get?_ofList catalog.names_distinct

end Inquiry.Catalog
