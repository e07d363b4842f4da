import Inquiry.Toml.Basic

/-!
Tables under construction. A table that a header has opened is not extended by dotted keys, one that
dotted keys have made is not opened by a header, and no value is assigned twice.
-/
namespace Inquiry.Toml

inductive Origin where
  | header
  /-- A longer header that passes through. -/
  | passage
  | dotted
deriving DecidableEq

inductive Node where
  | value (value : Toml)
  | table (origin : Origin) (entries : List (String × Node))
  /-- The tables of an array, the latest first. -/
  | tables (items : List (List (String × Node)))

abbrev Entries := List (String × Node)

def child? (entries : Entries) (key : String) : Option Node :=
  (entries.find? fun entry => entry.1 = key).map (·.2)

def setChild (key : String) (node : Node) : Entries → Entries
  | [] => [(key, node)]
  | (k, old) :: rest => if k = key then (k, node) :: rest else (k, old) :: setChild key node rest

/-- Assigns at a dotted key; the table that takes the value must have been made by dotted keys. -/
def assign? (value : Toml) : List String → Entries → Option Entries
  | [], _ => none
  | [key], entries =>
    if (child? entries key).isNone then some (setChild key (.value value) entries) else none
  | key :: rest, entries =>
    match child? entries key with
    | none => (assign? value rest []).map fun inner => setChild key (.table .dotted inner) entries
    | some (.table origin inner) =>
      if origin = .header || (origin = .passage && rest.length = 1) then none
      else (assign? value rest inner).map fun inner => setChild key (.table origin inner) entries
    | some (.tables (last :: earlier)) =>
      if rest.length = 1 then none
      else (assign? value rest last).map fun last => setChild key (.tables (last :: earlier)) entries
    | some _ => none

def opened? (isElement : Bool) : Option Node → Option Node
  | none => some (if isElement then .tables [[]] else .table .header [])
  | some (.table .passage inner) => if isElement then none else some (.table .header inner)
  | some (.tables items) => if isElement then some (.tables ([] :: items)) else none
  | some _ => none

def open? (isElement : Bool) : List String → Entries → Option Entries
  | [], _ => none
  | [key], entries =>
    (opened? isElement (child? entries key)).map fun node => setChild key node entries
  | key :: rest, entries =>
    match child? entries key with
    | none => (open? isElement rest []).map fun inner => setChild key (.table .passage inner) entries
    | some (.table origin inner) =>
      (open? isElement rest inner).map fun inner => setChild key (.table origin inner) entries
    | some (.tables (last :: earlier)) =>
      (open? isElement rest last).map fun last => setChild key (.tables (last :: earlier)) entries
    | some _ => none

def within? (change : Entries → Option Entries) : List String → Entries → Option Entries
  | [], entries => change entries
  | key :: rest, entries =>
    match child? entries key with
    | some (.table origin inner) =>
      (within? change rest inner).map fun inner => setChild key (.table origin inner) entries
    | some (.tables (last :: earlier)) =>
      (within? change rest last).map fun last => setChild key (.tables (last :: earlier)) entries
    | _ => none

mutual

def Node.toml : Node → Toml
  | .value value => value
  | .table _ entries => .table (entriesToml entries)
  | .tables items => .list (tablesToml items).reverse

def entriesToml : List (String × Node) → List (String × Toml)
  | [] => []
  | (key, node) :: rest => (key, node.toml) :: entriesToml rest

def tablesToml : List (List (String × Node)) → List Toml
  | [] => []
  | entries :: rest => .table (entriesToml entries) :: tablesToml rest

end

end Inquiry.Toml
