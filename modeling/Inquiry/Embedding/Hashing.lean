import Inquiry.Decimal.Digits
import Inquiry.Embedding.Basic
import Inquiry.Text.Case
import Inquiry.Text.Cut

/-!
An embedder that needs no service: every word of a text adds or takes one at the place that its
hash picks, and the whole is scaled to unit length.
-/
namespace Inquiry.Hashing

/-- The 64-bit hash of Fowler, Noll and Vo: exclusive or with each byte, then a multiplication. -/
def hash (bytes : List UInt8) : UInt64 :=
  bytes.foldl (fun h byte => (h ^^^ byte.toUInt64) * 0x100000001b3) 0xcbf29ce484222325

def words (text : String) : List String :=
  (Text.runs Text.isAlphanumeric text.toList).map fun word => Text.lowercase (String.ofList word)

def add (vector : Vector32) (word : String) : Vector32 :=
  let h := hash word.toUTF8.toList
  let change : Float32 := if h >>> 63 = 0 then 1 else -1
  vector.modify (h.toNat % vector.length) (· + change)

def counts (dimension : Nat) (text : String) : Vector32 :=
  (words text).foldl add (List.replicate dimension 0)

def embed (dimension : Nat) (text : String) : Vector32 :=
  let vector := counts dimension text
  let norm := vector.norm
  if norm > 0 then vector.map (· / norm) else vector

def embedder (dimension : Nat) : Embedder :=
  let places := max dimension 1
  ⟨"hash:fnv1a:" ++ Decimal.natText places, fun text => .ok (embed places text)⟩

end Inquiry.Hashing
