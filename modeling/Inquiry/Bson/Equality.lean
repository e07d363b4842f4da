import Inquiry.Bson.Basic

/-!
Equality of values by kind and content. Fields of a document compare without regard to their
order, items of a list with; a value that is not a number differs from itself.
-/
namespace Inquiry.Value

mutual

def equal : Value → Value → Bool
  | .double x, .double y => x == y
  | .text s, .text t => s == t
  | .document fields, .document others => fields.length == others.length && equalFields fields others
  | .list items, .list others => equalItems items others
  | .bool a, .bool b => a == b
  | .null, .null => true
  | .regex p o, .regex p' o' => p == p' && o == o'
  | .code s, .code s' => s == s'
  | .scopedCode s scope, .scopedCode s' others =>
    s == s' && scope.length == others.length && equalFields scope others
  | .int n, .int m => n == m
  | .long n, .long m => n == m
  | .timestamp t i, .timestamp t' i' => t == t' && i == i'
  | .binary k bytes, .binary k' bytes' => k == k' && bytes == bytes'
  | .objectId h, .objectId h' => h == h'
  | .date m, .date m' => m == m'
  | .symbol s, .symbol s' => s == s'
  | .decimal d, .decimal d' => d == d'
  | .undefined, .undefined => true
  | .minKey, .minKey => true
  | .maxKey, .maxKey => true
  | .pointer t i, .pointer t' i' => t == t' && i == i'
  | _, _ => false

def equalItems : List Value → List Value → Bool
  | [], [] => true
  | a :: rest, b :: others => equal a b && equalItems rest others
  | _, _ => false

def equalFields : List (String × Value) → List (String × Value) → Bool
  | [], _ => true
  | (name, value) :: rest, others =>
    (match Document.get? others name with
      | some other => equal value other
      | none => false) && equalFields rest others

end

end Inquiry.Value
