import Inquiry.Catalog
import Inquiry.Embedding.Basic
import Inquiry.Schema

/-!
The schema as vectors: one for every collection, made of its name and description, and one for
every field, made of its name and kind.
-/
namespace Inquiry

namespace Index

structure Entry where
  description : String
  vector : Vector32
  /-- In the order of the sample document. -/
  fields : List Field
  fieldVectors : Catalog Vector32
  count : Nat
  indexes : List String

end Index

abbrev Index := Catalog Index.Entry

namespace Index

def collectionText (name description : String) : String := name ++ ": " ++ description

def fieldText (field : Field) : String := field.name ++ ": " ++ field.kind

def embedFields (embedder : Embedder) (known : Catalog Vector32) :
    List Field → Except Embedding.Fault (Catalog Vector32)
  | [] => .ok known
  | field :: rest => do
    let vector ← embedder.embed (fieldText field)
    embedFields embedder (known.insert field.name vector) rest

def entryOf (embedder : Embedder) (collection : Collection) : Except Embedding.Fault Entry := do
  let vector ← embedder.embed (collectionText collection.name collection.description)
  let fieldVectors ← embedFields embedder .empty collection.fields
  return ⟨collection.description, vector, collection.fields, fieldVectors, collection.count,
    collection.indexes⟩

def extend (embedder : Embedder) (known : Index) : List Collection → Except Embedding.Fault Index
  | [] => .ok known
  | collection :: rest => do
    let entry ← entryOf embedder collection
    extend embedder (known.insert collection.name entry) rest

def build (embedder : Embedder) (schema : List Collection) : Except Embedding.Fault Index :=
  extend embedder .empty schema

def refreshed (embedder : Embedder) (live : Collection) (entry : Entry) :
    Except Embedding.Fault Entry := do
  let counted := { entry with count := live.count, indexes := live.indexes }
  if entry.description = live.description then return counted
  else
    let vector ← embedder.embed (collectionText live.name live.description)
    return { counted with vector, description := live.description }

def refresh (embedder : Embedder) (index : Index) :
    List Collection → Except Embedding.Fault (Nat × Index)
  | [] => .ok (0, index)
  | live :: rest =>
    match index.get? live.name with
    | none => refresh embedder index rest
    | some entry => do
      let next ← refreshed embedder live entry
      let (changes, index) ← refresh embedder (index.insert live.name next) rest
      return (changes + if entry.description = live.description then 0 else 1, index)

end Index
end Inquiry
