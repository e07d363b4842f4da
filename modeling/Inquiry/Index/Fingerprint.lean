import Inquiry.Schema
import Inquiry.Sha256

/-!
The key of a cached index: a digest of the embedder and of the shape of a schema, which is its
names and kinds without order. Counts, descriptions and index names do not matter.
-/
namespace Inquiry.Fingerprint

def line (text : String) : List UInt8 := (text ++ "\n").toUTF8.toList

def pair (field : Field) : String := field.name ++ ":" ++ field.kind

def pairs (fields : List Field) : List String := (fields.map pair).mergeSort (· ≤ ·)

def collectionShape (collection : Collection) : List UInt8 :=
  line collection.name ++ (pairs collection.fields).flatMap line

def shape (descriptor : String) (schema : List Collection) : List UInt8 :=
  let sorted := schema.mergeSort fun first second => first.name ≤ second.name
  line descriptor ++ sorted.flatMap collectionShape

def ofSchema (descriptor : String) (schema : List Collection) : String :=
  Sha256.hex (shape descriptor schema)

end Inquiry.Fingerprint
