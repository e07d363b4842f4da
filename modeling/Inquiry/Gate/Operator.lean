import Inquiry.Gate.Basic
import Inquiry.Query.Basic

/-! The query gate: a write operator as the key of any document inside a query. -/
namespace Inquiry.Gate

def writeOperators : List String :=
  ["$set", "$unset", "$push", "$pull", "$pullAll", "$addToSet", "$inc", "$rename", "$out", "$merge"]

mutual

def screenValue : Value → Option Blocked
  | .document fields => screenFields fields
  | .list items => screenItems items
  | _ => none

def screenItems : List Value → Option Blocked
  | [] => none
  | item :: rest => (screenValue item).or (screenItems rest)

def screenFields : List (String × Value) → Option Blocked
  | [] => none
  | (name, value) :: rest =>
    if writeOperators.contains name then some ⟨name⟩
    else (screenValue value).or (screenFields rest)

end

def screenDocument (document : Document) : Option Blocked := screenFields document

def screenOperation : Operation → Option Blocked
  | .find filter | .count filter => screenDocument filter
  | .aggregate pipeline => pipeline.findSome? screenDocument

def screenQuery (query : Query) : Option Blocked := screenOperation query.operation

end Inquiry.Gate
