import Inquiry.Proofs.Index.Coherence
import Mathlib.Data.List.Perm.Basic

/-!
An index that has the vectors of its own texts, what is known live and the shape of the schema is
the index that would be built now, but for the order in which fields are listed.
-/
namespace Inquiry

structure Schema.SameShape (first second : List Collection) : Prop where
  names : ∀ name, name ∈ first.map (·.name) ↔ name ∈ second.map (·.name)
  fields : ∀ before ∈ first, ∀ after ∈ second, before.name = after.name →
    before.fields.Perm after.fields

namespace Index

variable {embedder : Embedder} {index next first second : Index} {schema before after : List Collection}
  {changes : Nat}

structure Entry.SameButOrder (first second : Entry) : Prop where
  others : { first with fields := second.fields } = second
  fields : first.fields.Perm second.fields

def SameButOrder (first second : Index) : Prop :=
  ∀ name, Option.Rel Entry.SameButOrder (first.get? name) (second.get? name)

structure HasShape (schema : List Collection) (index : Index) : Prop where
  names : ∀ name, index.contains name = true ↔ name ∈ schema.map (·.name)
  fields : ∀ live ∈ schema, ∀ entry, index.get? live.name = some entry →
    entry.fields.Perm live.fields

structure Describes (embedder : Embedder) (schema : List Collection) (index : Index) : Prop where
  coherent : index.IsCoherent embedder
  current : index.IsCurrent schema
  shape : index.HasShape schema

theorem contains_iff {name : String} :
    index.contains name = true ↔ ∃ entry, index.get? name = some entry := Option.isSome_iff_exists

theorem HasShape.congr (shape : index.HasShape before) (same : Schema.SameShape before after) :
    index.HasShape after := by
  refine ⟨fun name => (shape.names name).trans (same.names name), fun live member entry found => ?_⟩
  have listed := (shape.names live.name).1 (contains_iff.2 ⟨entry, found⟩)
  obtain ⟨earlier, earlierMember, sameName⟩ := List.mem_map.1 listed
  have kept := shape.fields earlier earlierMember entry (sameName ▸ found)
  exact kept.trans (same.fields earlier earlierMember live member sameName)

theorem build_shape (built : build embedder schema = .ok index) (sound : Schema.IsSound schema) :
    index.HasShape schema := by
  refine ⟨fun name => ⟨fun there => ?_, fun listed => ?_⟩, fun live member entry found => ?_⟩
  · obtain ⟨entry, found⟩ := contains_iff.1 there
    obtain ⟨live, member, rfl, -⟩ := build_source built sound found
    exact List.mem_map_of_mem member
  · obtain ⟨live, member, rfl⟩ := List.mem_map.1 listed
    obtain ⟨entry, -, found⟩ := build_item built sound member
    exact contains_iff.2 ⟨entry, found⟩
  · obtain ⟨made, isMade, there⟩ := build_item built sound member
    cases there.symm.trans found
    exact .of_eq (entryOf_current isMade).2

theorem build_describes (built : build embedder schema = .ok index)
    (sound : Schema.IsSound schema) : index.Describes embedder schema :=
  ⟨build_coherent built sound, build_current built sound, build_shape built sound⟩

theorem build_fields (built : build embedder schema = .ok index) (sound : Schema.IsSound schema)
    {live : Collection} (member : live ∈ schema) :
    (index.get? live.name).map (·.fields) = some live.fields := by
  obtain ⟨entry, made, found⟩ := build_item built sound member
  rw [found, Option.map_some, (entryOf_current made).2]

/-- A refresh keeps the names of an index and the fields under each. -/
theorem refresh_fields (run : refresh embedder index schema = .ok (changes, next))
    (sound : Schema.IsSound schema) (name : String) :
    (next.get? name).map (·.fields) = (index.get? name).map (·.fields) := by
  by_cases listed : name ∈ schema.map (·.name)
  · obtain ⟨live, member, rfl⟩ := List.mem_map.1 listed
    rcases refresh_item run sound.names member with ⟨before, now⟩ | ⟨old, fresh, before, isFresh, now⟩
    · rw [before, now]
    · rw [before, now, Option.map_some, Option.map_some, (refreshed_current isFresh).2]
  · rw [refresh_other run listed]

theorem refresh_shape (run : refresh embedder index schema = .ok (changes, next))
    (sound : Schema.IsSound schema) (shape : index.HasShape schema) : next.HasShape schema := by
  refine ⟨fun name => ?_, fun live member entry found => ?_⟩
  · have same := congrArg Option.isSome (refresh_fields run sound name)
    rw [Option.isSome_map, Option.isSome_map] at same
    rw [← shape.names name, Catalog.contains, Catalog.contains, same]
  · have same := refresh_fields run sound live.name
    rw [found] at same
    obtain ⟨old, before, fields⟩ := Option.map_eq_some_iff.1 same.symm
    rw [← show old.fields = entry.fields from fields]
    exact shape.fields live member old before

theorem refresh_describes (run : refresh embedder index schema = .ok (changes, next))
    (sound : Schema.IsSound schema) (coherent : index.IsCoherent embedder)
    (shape : index.HasShape schema) : next.Describes embedder schema :=
  ⟨refresh_coherent run sound coherent, refresh_current run sound, refresh_shape run sound shape⟩

section Entries

variable {name : String} {entry other : Entry} {live : Collection}

theorem fieldVectors_found (coherent : entry.IsCoherent embedder name)
    (coherentOther : other.IsCoherent embedder name)
    (inside : ∀ field ∈ entry.fields, field ∈ other.fields) {key : String} {vector : Vector32}
    (found : entry.fieldVectors.get? key = some vector) :
    other.fieldVectors.get? key = some vector := by
  obtain ⟨field, member, rfl⟩ := coherent.only key vector found
  obtain ⟨made, embedded, here⟩ := coherent.covers field member
  obtain ⟨madeOther, embeddedOther, there⟩ := coherentOther.covers field (inside field member)
  cases here.symm.trans found
  cases embedded.symm.trans embeddedOther
  exact there

/-- Nothing but the order of the fields is left open. -/
theorem Entry.IsCoherent.sameButOrder (coherent : entry.IsCoherent embedder name)
    (coherentOther : other.IsCoherent embedder name) (current : entry.IsCurrent live)
    (currentOther : other.IsCurrent live) (fields : entry.fields.Perm other.fields) :
    entry.SameButOrder other := by
  refine ⟨?_, fields⟩
  have vectors : entry.fieldVectors = other.fieldVectors :=
    Catalog.ext fun key => Option.ext fun vector =>
      ⟨fieldVectors_found coherent coherentOther fun _ => fields.mem_iff.1,
        fieldVectors_found coherentOther coherent fun _ => fields.mem_iff.2⟩
  have description := current.description.trans currentOther.description.symm
  have vector : entry.vector = other.vector := by
    have embedded := coherent.vector
    rw [description] at embedded
    exact Except.ok.inj (embedded.symm.trans coherentOther.vector)
  have count := current.count.trans currentOther.count.symm
  have indexes := current.indexes.trans currentOther.indexes.symm
  cases entry
  cases other
  simp_all

end Entries

theorem Describes.sameButOrder (describes : first.Describes embedder schema)
    (describesToo : second.Describes embedder schema) : first.SameButOrder second := by
  intro name
  by_cases listed : name ∈ schema.map (·.name)
  · obtain ⟨live, member, rfl⟩ := List.mem_map.1 listed
    obtain ⟨entry, found⟩ := contains_iff.1 ((describes.shape.names live.name).2 listed)
    obtain ⟨other, foundToo⟩ := contains_iff.1 ((describesToo.shape.names live.name).2 listed)
    rw [found, foundToo]
    have fields := describes.shape.fields live member entry found
    have fieldsToo := describesToo.shape.fields live member other foundToo
    exact .some <| (describes.coherent live.name entry found).sameButOrder
      (describesToo.coherent live.name other foundToo) (describes.current live member entry found)
      (describesToo.current live member other foundToo) (fields.trans fieldsToo.symm)
  · have absent : ∀ index : Index, index.HasShape schema → index.get? name = none := by
      intro index shape
      rw [← Option.not_isSome_iff_eq_none]
      exact fun there => listed ((shape.names name).1 there)
    rw [absent first describes.shape, absent second describesToo.shape]
    exact .none

/-- Where the fields have the same order too, there is no difference. -/
theorem SameButOrder.eq (same : first.SameButOrder second)
    (order : ∀ name entry other, first.get? name = some entry → second.get? name = some other →
      entry.fields = other.fields) : first = second := by
  refine Catalog.ext fun name => ?_
  have related := same name
  cases found : first.get? name with
  | none =>
    cases foundToo : second.get? name with
    | none => rfl
    | some other =>
      rw [found, foundToo] at related
      cases related
  | some entry =>
    cases foundToo : second.get? name with
    | none =>
      rw [found, foundToo] at related
      cases related
    | some other =>
      rw [found, foundToo] at related
      cases related with
      | some alike =>
        have others := alike.others
        rw [← order name entry other found foundToo] at others
        exact congrArg some others

end Index
end Inquiry
