import Inquiry.Index.Cache
import Inquiry.Proofs.Catalog
import Inquiry.Proofs.Json.Record

/-!
The record of an index in its file. As far as the literals of its numbers are read as those numbers,
the text of a record is read as that record if all its numbers have literals, and not at all if one
has none.
-/
namespace Inquiry

def Cache.HasLiteral (x : Float32) : Prop :=
  (Decimal.data? Decimal.single (Decimal.reading32 x)).isSome = true

def Cache.IsExact (x : Float32) : Prop :=
  ∀ literal ∈ Decimal.data? Decimal.single (Decimal.reading32 x),
    ((Json.Number.ofLiteral? literal).bind fun number => Json.float32? (.number number)) = some x

instance (x : Float32) : Decidable (Cache.HasLiteral x) := inferInstanceAs (Decidable (_ = true))

instance (x : Float32) : Decidable (Cache.IsExact x) := inferInstanceAs (Decidable (∀ _ ∈ _, _))

namespace Index

structure Entry.EachNumber (Kind : Float32 → Prop) (entry : Entry) : Prop where
  vector : ∀ x ∈ entry.vector, Kind x
  fieldVectors : ∀ named ∈ entry.fieldVectors.entries, ∀ x ∈ named.2, Kind x

def EachNumber (Kind : Float32 → Prop) (index : Index) : Prop :=
  ∀ named ∈ index.entries, named.2.EachNumber Kind

structure IsExact (index : Index) : Prop where
  numbers : index.EachNumber Cache.IsExact
  counts : ∀ named ∈ index.entries, named.2.count < UInt64.size

end Index

namespace Cache

open Json (ReadsBack EntryWrittenAs readsBack_each record?_object)

theorem readsBack_single {x : Float32} (exact : IsExact x) :
    ReadsBack 0 Json.float32? (.number (.single x)) x (HasLiteral x) := by
  cases form : Decimal.data? Decimal.single (Decimal.reading32 x) with
  | none =>
    have never : ¬ HasLiteral x := by simp [HasLiteral, form]
    refine ⟨.null, fun level => ?_, Nat.le_refl 0, fun has => absurd has never, fun _ => rfl⟩
    simpa [Json.pretty, Json.Number.written, form] using Json.Prints.null
  | some literal =>
    have has : HasLiteral x := by simp [HasLiteral, form]
    obtain ⟨value, read, meant⟩ := Option.bind_eq_some_iff.1 (exact literal form)
    refine ⟨.number value, .literal ?_ ?_, Nat.le_refl 0, fun _ => meant, fun never => absurd has never⟩
    · simpa [Json.Number.written, form] using read
    · rintro rfl
      cases meant

theorem readsBack_vector {vector : Vector32} (exact : ∀ x ∈ vector, IsExact x) :
    ReadsBack 1 vector? (vectorJson vector) vector (∀ x ∈ vector, HasLiteral x) :=
  .list fun x member => readsBack_single (exact x member)

theorem readsBack_field (field : Field) : ReadsBack 1 field? (fieldJson field) field True := by
  refine ⟨fieldJson field, .object (.cons ⟨rfl, .text _⟩ (.cons ⟨rfl, .text _⟩ .nil)), Nat.le_refl 1,
    fun _ => ?_, fun never => absurd trivial never⟩
  have members : Json.record? ["name", "type_name"] (fieldJson field) =
      some [.text field.name, .text field.kind] :=
    @record?_object [("name", .text field.name), ("type_name", .text field.kind)] (by simp)
  rw [field?, members]
  rfl

theorem readsBack_catalog {α : Type} {depth : Nat} {item? : Json → Option α} {json : α → Json}
    {Writable : α → Prop} {catalog : Catalog α}
    (each : ∀ named ∈ catalog.entries,
      ReadsBack depth item? (json named.2) named.2 (Writable named.2)) :
    ReadsBack (depth + 1) (catalog? item?)
      (.object (catalog.entries.map fun named => (named.1, json named.2))) catalog
      (∀ named ∈ catalog.entries, Writable named.2) := by
  obtain ⟨meants, written, shallow, same, lost⟩ :=
    @readsBack_each _ _ _ (fun named : String × α => (named.1, json named.2)) EntryWrittenAs
      (fun meant => meant.2.depth ≤ depth) (fun meant => do return (meant.1, ← item? meant.2))
      (fun named => Writable named.2) catalog.entries fun named member => by
        obtain ⟨meant, written, shallow, same, lost⟩ := each named member
        exact ⟨(named.1, meant), ⟨rfl, written⟩, shallow, fun writable => by simp [same writable],
          fun never => by simp [lost never]⟩
  refine ⟨.object meants, .object written, Nat.succ_le_succ (Json.depthOfEntries_le shallow), ?_, ?_⟩
  · intro writable
    change Option.bind (meants.mapM _) _ = _
    rw [same writable]
    exact congrArg some catalog.ofList_entries
  · intro never
    change Option.bind (meants.mapM _) _ = _
    rw [lost never]
    rfl

theorem entry_members (description vector fields fieldVectors count indexes : Json) :
    Json.record? entryNames (.object
      [("description", description), ("collection_embedding", vector), ("fields", fields),
       ("field_embeddings", fieldVectors), ("doc_count", count), ("indexed_fields", indexes)]) =
      some [description, vector, fields, fieldVectors, count, indexes] :=
  @record?_object
    [("description", description), ("collection_embedding", vector), ("fields", fields),
     ("field_embeddings", fieldVectors), ("doc_count", count), ("indexed_fields", indexes)] (by simp)

theorem readsBack_entry {entry : Index.Entry} (exact : entry.EachNumber IsExact)
    (bound : entry.count < UInt64.size) :
    ReadsBack 3 entry? (entryJson entry) entry (entry.EachNumber HasLiteral) := by
  obtain ⟨vector, vectorWritten, vectorDepth, sameVector, lostVector⟩ := readsBack_vector exact.vector
  obtain ⟨fields, fieldsWritten, fieldsDepth, sameFields, -⟩ :=
    ReadsBack.list fun field (_ : field ∈ entry.fields) => readsBack_field field
  obtain ⟨fieldVectors, fieldVectorsWritten, fieldVectorsDepth, sameFieldVectors, lostFieldVectors⟩ :=
    @readsBack_catalog _ _ _ _ (fun vector => ∀ x ∈ vector, HasLiteral x) _ fun named member =>
      readsBack_vector (exact.fieldVectors named member)
  obtain ⟨count, countWritten, countDepth, sameCount, -⟩ := ReadsBack.count bound
  obtain ⟨indexes, indexesWritten, indexesDepth, sameIndexes, -⟩ :=
    ReadsBack.list fun name (_ : name ∈ entry.indexes) => ReadsBack.text name
  refine ⟨.object
    [("description", .text entry.description), ("collection_embedding", vector),
     ("fields", fields), ("field_embeddings", fieldVectors), ("doc_count", count),
     ("indexed_fields", indexes)], .object ?_, ?_, fun writable => ?_, fun never => ?_⟩
  · exact .cons ⟨rfl, .text _⟩ <| .cons ⟨rfl, vectorWritten⟩ <| .cons ⟨rfl, fieldsWritten⟩ <|
      .cons ⟨rfl, fieldVectorsWritten⟩ <| .cons ⟨rfl, countWritten⟩ <|
      .cons ⟨rfl, indexesWritten⟩ .nil
  · simp only [Json.depth, Json.depthOfEntries]
    omega
  · unfold entry?
    rw [entry_members]
    simp [Json.text?, sameVector writable.vector, sameFields fun _ _ => trivial,
      sameFieldVectors writable.fieldVectors, sameCount trivial, sameIndexes fun _ _ => trivial]
  · unfold entry?
    rw [entry_members]
    by_cases first : ∀ x ∈ entry.vector, HasLiteral x
    · have second : ¬ ∀ named ∈ entry.fieldVectors.entries, ∀ x ∈ named.2, HasLiteral x :=
        fun second => never ⟨first, second⟩
      simp [Json.text?, sameVector first, sameFields fun _ _ => trivial, lostFieldVectors second]
    · simp [Json.text?, lostVector first]

theorem readsBack_record {record : Record} (exact : record.index.IsExact) :
    ReadsBack 5 record? (recordJson record) record (record.index.EachNumber HasLiteral) := by
  obtain ⟨index, written, shallow, same, lost⟩ :=
    @readsBack_catalog _ _ _ _ (Index.Entry.EachNumber HasLiteral) _ fun named member =>
      readsBack_entry (exact.numbers named member) (exact.counts named member)
  have members :
      Json.record? ["fingerprint", "embedder", "created_at", "collections"] _ = _ :=
    @record?_object
      [("fingerprint", .text record.fingerprint), ("embedder", .text record.embedder),
       ("created_at", .text record.created), ("collections", index)] (by simp)
  refine ⟨.object
    [("fingerprint", .text record.fingerprint), ("embedder", .text record.embedder),
     ("created_at", .text record.created), ("collections", index)], .object ?_, ?_,
    fun writable => ?_, fun never => ?_⟩
  · exact .cons ⟨rfl, .text _⟩ <| .cons ⟨rfl, .text _⟩ <| .cons ⟨rfl, .text _⟩ <|
      .cons ⟨rfl, written⟩ .nil
  · simp only [Json.depth, Json.depthOfEntries]
    omega
  · rw [record?, members]
    simp [Json.text?, same writable]
  · rw [record?, members]
    simp [Json.text?, lost never]

section Texts

variable {record other : Record}

/-- The text of a record is read as that record. -/
theorem ofText_text (exact : record.index.IsExact) (writable : record.index.EachNumber HasLiteral) :
    Record.ofText? record.text = some record :=
  ((readsBack_record exact).parse (by decide)).1 writable

/-- The text of a record with a number that has no literal is read as none. -/
theorem ofText_lost (exact : record.index.IsExact) (lost : ¬ record.index.EachNumber HasLiteral) :
    Record.ofText? record.text = none :=
  ((readsBack_record exact).parse (by decide)).2 lost

/-- Whatever is read from the text of a record is that record. -/
theorem ofText_only (exact : record.index.IsExact)
    (read : Record.ofText? record.text = some other) : other = record := by
  by_cases writable : record.index.EachNumber HasLiteral
  · exact Option.some.inj (read.symm.trans (ofText_text exact writable))
  · rw [ofText_lost exact writable] at read
    cases read

end Texts

end Cache
end Inquiry
