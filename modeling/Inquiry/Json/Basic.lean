import Inquiry.Decimal.Scan

/-!
JSON values. An object keeps its entries as written, in order and with repeated keys; which entry
of a repeated key counts is the reader's decision.
-/
namespace Inquiry

inductive Json.Number where
  | integer (value : Int)
  | decimal (value : Float)
  | single (value : Float32)
  /-- A literal whose magnitude is beyond every finite number. -/
  | beyond

inductive Json where
  | null
  | bool (value : Bool)
  | number (value : Json.Number)
  | text (value : String)
  | list (items : List Json)
  | object (entries : List (String × Json))

namespace Json

mutual

def depth : Json → Nat
  | .list items => depthOfItems items + 1
  | .object entries => depthOfEntries entries + 1
  | _ => 0

def depthOfItems : List Json → Nat
  | [] => 0
  | item :: rest => max (depth item) (depthOfItems rest)

def depthOfEntries : List (String × Json) → Nat
  | [] => 0
  | (_, value) :: rest => max (depth value) (depthOfEntries rest)

end

mutual

def bounded : Json → Bool
  | .number .beyond => false
  | .list items => boundedItems items
  | .object entries => boundedEntries entries
  | _ => true

def boundedItems : List Json → Bool
  | [] => true
  | item :: rest => bounded item && boundedItems rest

def boundedEntries : List (String × Json) → Bool
  | [] => true
  | (_, value) :: rest => bounded value && boundedEntries rest

end

def maxDepth : Nat := 127

def put {α : Type} (key : String) (value : α) : List (String × α) → List (String × α)
  | [] => [(key, value)]
  | (k, v) :: rest => if k = key then (k, value) :: rest else (k, v) :: put key value rest

/-- The last value of a repeated key, at the place of its first. -/
def lastWins {α : Type} (entries : List (String × α)) : List (String × α) :=
  entries.foldl (fun kept (key, value) => put key value kept) []

def find? {α : Type} (entries : List (String × α)) (key : String) : Option α :=
  (entries.find? fun entry => entry.1 = key).map (·.2)

end Json
end Inquiry
