import Inquiry.Bson.Equality
import Inquiry.Catalog
import Inquiry.Store.Basic

/-!
A database in memory. Filters compare fields for equality; operator expressions are accepted and
say nothing. A pipeline gives the result that was set for it, or all documents.
-/
namespace Inquiry.Memory

structure Holding where
  documents : List Document := []
  indexes : List String := []
  aggregateResult : Option (List Document) := none
  /-- Every query on the collection fails with this text. -/
  failure : Option String := none

def isOperator (key : String) : Bool := key.toList.head? = some '$'

def isExpression : Value → Bool
  | .document fields => fields.any fun field => isOperator field.1
  | _ => false

def hasField (document : Document) (key : String) (value : Value) : Bool :=
  match document.get? key with
  | some found => found.equal value
  | none => false

def accepts (filter document : Document) : Bool :=
  filter.all fun (key, value) =>
    isOperator key || isExpression value || hasField document key value

end Memory

abbrev Memory := Catalog Memory.Holding

namespace Memory

def change (memory : Memory) (name : String) (update : Holding → Holding) : Memory :=
  memory.insert name (update ((memory.get? name).getD {}))

def withDocuments (memory : Memory) (name : String) (documents : List Document) : Memory :=
  memory.change name fun holding => { holding with documents, indexes := ["_id_"] }

def withAggregateResult (memory : Memory) (name : String) (documents : List Document) : Memory :=
  memory.change name fun holding => { holding with aggregateResult := some documents }

def withFailure (memory : Memory) (name detail : String) : Memory :=
  memory.change name fun holding => { holding with failure := some detail }

def holding (memory : Memory) (name : String) : Except Store.Fault Holding :=
  match memory.get? name with
  | none => .ok {}
  | some holding =>
    match holding.failure with
    | some detail => .error (.query name detail)
    | none => .ok holding

def matching (memory : Memory) (name : String) (filter : Document) :
    Except Store.Fault (List Document) :=
  (memory.holding name).map fun holding => holding.documents.filter (accepts filter)

def collectionOf (name : String) (holding : Holding) : Collection :=
  Schema.collection name (((holding.documents.head?).map Schema.fieldsOf).getD [])
    holding.documents.length holding.indexes

def schema (memory : Memory) : List Collection :=
  (memory.entries.filter fun entry => !Schema.isSystem entry.1).map fun (name, holding) =>
    collectionOf name holding

def store (memory : Memory) : Store where
  find name filter limit := (memory.matching name filter).map fun documents => documents.take limit
  count name filter := (memory.matching name filter).map List.length
  aggregate name _ limit := (memory.holding name).map fun holding =>
    (holding.aggregateResult.getD holding.documents).take limit
  sample name := (memory.holding name).map fun holding => holding.documents.head?
  survey := ⟨[], .ok memory.schema⟩

end Memory
end Inquiry
