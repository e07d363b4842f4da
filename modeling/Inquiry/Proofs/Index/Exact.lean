import Inquiry.Proofs.Index.Rebuild
import Inquiry.Proofs.Index.Record

/-! An index can be kept in a file when the vectors of the texts that it was made of can. -/
namespace Inquiry

def Schema.texts (schema : List Collection) : List String :=
  schema.flatMap fun live =>
    Index.collectionText live.name live.description :: live.fields.map Index.fieldText

def Embedder.EachNumber (Kind : Float32 → Prop) (embedder : Embedder) (text : String) : Prop :=
  ∀ vector, embedder.embed text = .ok vector → ∀ x ∈ vector, Kind x

section Texts

variable {schema : List Collection} {live : Collection}

theorem Schema.texts_collection (member : live ∈ schema) :
    Index.collectionText live.name live.description ∈ texts schema :=
  List.mem_flatMap.2 ⟨live, member, List.mem_cons_self⟩

theorem Schema.texts_field (member : live ∈ schema) {field : Field} (inside : field ∈ live.fields) :
    Index.fieldText field ∈ texts schema :=
  List.mem_flatMap.2 ⟨live, member, List.mem_cons_of_mem _ (List.mem_map_of_mem inside)⟩

end Texts

namespace Index

variable {embedder : Embedder} {index next : Index} {schema : List Collection} {changes : Nat}
  {Kind : Float32 → Prop}

theorem Entry.IsCoherent.each {name : String} {entry : Entry}
    (coherent : entry.IsCoherent embedder name)
    (collection : embedder.EachNumber Kind (collectionText name entry.description))
    (fields : ∀ field ∈ entry.fields, embedder.EachNumber Kind (fieldText field)) :
    entry.EachNumber Kind := by
  refine ⟨collection _ coherent.vector, fun named member => ?_⟩
  have found := Catalog.get?_iff.2 member
  obtain ⟨field, listed, same⟩ := coherent.only named.1 named.2 found
  obtain ⟨vector, embedded, here⟩ := coherent.covers field listed
  rw [same, found] at here
  cases here
  exact fields field listed named.2 embedded

/-- Every entry of an index stands for a live collection. -/
theorem Describes.live (describes : index.Describes embedder schema) {named : String × Entry}
    (member : named ∈ index.entries) : ∃ live ∈ schema, live.name = named.1 ∧
      named.2.IsCoherent embedder live.name ∧ named.2.IsCurrent live ∧
      named.2.fields.Perm live.fields := by
  have found := Catalog.get?_iff.2 member
  have listed := (describes.shape.names named.1).1 (contains_iff.2 ⟨named.2, found⟩)
  obtain ⟨live, isLive, same⟩ := List.mem_map.1 listed
  rw [← same] at found
  exact ⟨live, isLive, same, describes.coherent live.name named.2 found,
    describes.current live isLive named.2 found, describes.shape.fields live isLive named.2 found⟩

theorem Describes.each (describes : index.Describes embedder schema)
    (texts : ∀ text ∈ Schema.texts schema, embedder.EachNumber Kind text) : index.EachNumber Kind := by
  intro named member
  obtain ⟨live, isLive, -, coherent, current, fields⟩ := describes.live member
  refine coherent.each ?_ fun field inside => ?_
  · rw [current.description]
    exact texts _ (Schema.texts_collection isLive)
  · exact texts _ (Schema.texts_field isLive (fields.mem_iff.1 inside))

theorem Describes.isExact (describes : index.Describes embedder schema)
    (sound : Schema.IsSound schema)
    (texts : ∀ text ∈ Schema.texts schema, embedder.EachNumber Cache.IsExact text) :
    index.IsExact := by
  refine ⟨describes.each texts, fun named member => ?_⟩
  obtain ⟨live, isLive, -, -, current, -⟩ := describes.live member
  rw [current.count]
  exact sound.counts live isLive

theorem refreshed_each {live : Collection} {entry fresh : Entry}
    (run : refreshed embedder live entry = .ok fresh) (each : entry.EachNumber Kind)
    (collection : embedder.EachNumber Kind (collectionText live.name live.description)) :
    fresh.EachNumber Kind := by
  obtain ⟨vector, rfl, ⟨-, rfl⟩ | embedded⟩ := refreshed_ok run
  · exact ⟨each.vector, each.fieldVectors⟩
  · exact ⟨collection vector embedded, each.fieldVectors⟩

theorem refresh_exact (run : refresh embedder index schema = .ok (changes, next))
    (sound : Schema.IsSound schema) (exact : index.IsExact)
    (texts : ∀ text ∈ Schema.texts schema, embedder.EachNumber Cache.IsExact text) :
    next.IsExact := by
  constructor
  all_goals
    intro named member
    rcases refresh_source run sound (Catalog.get?_iff.2 member) with
      there | ⟨live, isLive, same, old, there, isFresh⟩
  · exact exact.numbers named (Catalog.get?_iff.1 there)
  · exact refreshed_each isFresh (exact.numbers _ (Catalog.get?_iff.1 there))
      (texts _ (Schema.texts_collection isLive))
  · exact exact.counts named (Catalog.get?_iff.1 there)
  · rw [(refreshed_current isFresh).1.count]
    exact sound.counts live isLive

end Index
end Inquiry
