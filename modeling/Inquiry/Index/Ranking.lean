import Inquiry.Index.Basic

/-! The names in an index, nearest to a question first; equal scores go by name. -/
namespace Inquiry.Index

structure Scored where
  name : String
  score : Float32
deriving DecidableEq

/-- A number that orders scores as their signs and magnitudes do, negative zero below zero. -/
def rank (score : Float32) : Int :=
  let bits := score.toBits.toNat
  if bits < 0x80000000 then bits else 0x7fffffff - bits

def precedes (first second : Scored) : Bool :=
  rank second.score < rank first.score ||
    (rank first.score = rank second.score && decide (first.name ≤ second.name))

def nearest (question : Vector32) (vectors : List (String × Vector32)) (limit : Nat) : List Scored :=
  ((vectors.map fun (name, vector) => ⟨name, question.cosine vector⟩).mergeSort precedes).take limit

def rankCollections (index : Index) (question : Vector32) (limit : Nat) : List Scored :=
  nearest question (index.entries.map fun (name, entry) => (name, entry.vector)) limit

def rankFields (index : Index) (question : Vector32) (collection : String) (limit : Nat) :
    List Scored :=
  match index.get? collection with
  | some entry => nearest question entry.fieldVectors.entries limit
  | none => []

end Inquiry.Index
