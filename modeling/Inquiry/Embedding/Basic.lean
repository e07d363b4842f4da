/-! Vectors for texts, and what makes them. -/
namespace Inquiry

abbrev Vector32 := List Float32

namespace Vector32

/-- From left to right, on top of negative zero, which changes no summand. -/
def sum (terms : List Float32) : Float32 := terms.foldl (· + ·) (-0.0)

def dot (first second : Vector32) : Float32 := sum (List.zipWith (· * ·) first second)

def norm (vector : Vector32) : Float32 := (dot vector vector).sqrt

/-- The cosine of the angle between two vectors, zero wherever it is not a number. -/
def cosine (first second : Vector32) : Float32 :=
  if first.length ≠ second.length || first.isEmpty then 0
  else if norm first == 0 || norm second == 0 then 0
  else
    let score := dot first second / (norm first * norm second)
    if score.isFinite then score else 0

end Vector32

inductive Embedding.Fault where
  | unknownProvider (name : String)
  | request (detail : String)
  | response (detail : String)
deriving DecidableEq

def Embedding.Fault.message : Fault → String
  | .unknownProvider name => "unknown embedding provider: " ++ name
  | .request detail => "embedding request failed: " ++ detail
  | .response detail => "embedding response invalid: " ++ detail

structure Embedder where
  descriptor : String
  vector : String → Except Embedding.Fault Vector32

def Embedder.embed (embedder : Embedder) (text : String) : Except Embedding.Fault Vector32 := do
  let vector ← embedder.vector text
  if vector.isEmpty then .error (.response "empty vector") else .ok vector

end Inquiry
