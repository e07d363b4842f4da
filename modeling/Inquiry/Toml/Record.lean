import Inquiry.Decimal.Single
import Inquiry.Toml.Basic

/-!
TOML values as records: a table with any of the named members and others besides, or a list of the
first of them in order.
-/
namespace Inquiry.Toml

/-- A member by name, and whether a list may end before it. -/
structure Member where
  name : String
  optional : Bool := true

def entryOf? (entries : List (String × Toml)) (name : String) : Option Toml :=
  (entries.find? fun entry => entry.1 = name).map (·.2)

def inOrder? : List Member → List Toml → Option (List (String × Toml))
  | [], _ => some []
  | member :: rest, [] => if member.optional then inOrder? rest [] else none
  | member :: rest, item :: items => (inOrder? rest items).map ((member.name, item) :: ·)

/-- The members there are; a date is a table that has none of them. -/
def members? (wanted : List Member) : Toml → Option (List (String × Toml))
  | .table entries => some entries
  | .list items => inOrder? wanted items
  | .date _ => some []
  | _ => none

def member? {α : Type} (entries : List (String × Toml)) (name : String) (read? : Toml → Option α)
    (default : α) : Option α :=
  match entryOf? entries name with
  | none => some default
  | some value => read? value

def text? : Toml → Option String
  | .string s => some s
  | _ => none

def natBelow? (bound : Nat) : Toml → Option Nat
  | .integer n => if 0 ≤ n && n < bound then some n.toNat else none
  | _ => none

def nat? : Toml → Option Nat := natBelow? 0x8000000000000000

def magnitude32 (n : Nat) : Float32 := Float32.ofScientific n false 0

def float32? : Toml → Option Float32
  | .integer n => some (if n < 0 then -magnitude32 n.natAbs else magnitude32 n.natAbs)
  | .float x => some (Decimal.toSingle x)
  | _ => none

end Inquiry.Toml
