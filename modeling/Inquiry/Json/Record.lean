import Inquiry.Decimal.Single
import Inquiry.Json.Reading

/-!
JSON as records. A record is an object with each named member once and others besides, or a list of
the members in the order of their names.
-/
namespace Inquiry.Json

structure Member where
  name : String
  required : Bool := true

def Member.among (member : Member) (entries : List (String × Json)) : Option (Option Json) :=
  match entries.filter fun entry => entry.1 = member.name with
  | [] => if member.required then none else some none
  | [entry] => some (some entry.2)
  | _ => none

def Member.inOrder : List Member → List Json → Option (List (Option Json))
  | [], [] => some []
  | [], _ :: _ => none
  | member :: rest, [] => if member.required then none else (inOrder rest []).map (none :: ·)
  | _ :: rest, item :: items => (inOrder rest items).map (some item :: ·)

def members? (wanted : List Member) : Json → Option (List (Option Json))
  | .object entries => wanted.mapM fun member => member.among entries
  | .list items => Member.inOrder wanted items
  | _ => none

def record? (names : List String) (value : Json) : Option (List Json) :=
  (members? (names.map fun name => ⟨name, true⟩) value).bind fun members => members.mapM id

def text? : Json → Option String
  | .text s => some s
  | _ => none

def list? : Json → Option (List Json)
  | .list items => some items
  | _ => none

def entries? : Json → Option (List (String × Json))
  | .object entries => some entries
  | _ => none

def listOf? {α : Type} (item? : Json → Option α) (value : Json) : Option (List α) :=
  (list? value).bind fun items => items.mapM item?

def count? : Json → Option Nat
  | .number (.integer n) => if 0 ≤ n then some n.toNat else none
  | _ => none

def magnitude32 (n : Nat) : Float32 := Float32.ofScientific n false 0

/-- A number in 32 bits; what is too large becomes infinite. -/
def float32? : Json → Option Float32
  | .number (.integer n) => some (if n < 0 then -magnitude32 n.natAbs else magnitude32 n.natAbs)
  | .number (.decimal x) => some (Decimal.toSingle x)
  | .number (.single x) => some x
  | _ => none

end Inquiry.Json
