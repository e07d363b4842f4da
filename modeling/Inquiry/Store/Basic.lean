import Inquiry.Query.Basic
import Inquiry.Schema

/-! A document database, which can only be read. -/
namespace Inquiry

inductive Command where
  | find (collection : String) (filter : Document) (limit : Nat)
  | count (collection : String) (filter : Document)
  | aggregate (collection : String) (pipeline : List Document) (limit : Nat)

inductive Store.Fault where
  | address (detail : String)
  | connection (detail : String)
  | query (collection detail : String)
deriving DecidableEq

def Store.Fault.message : Fault → String
  | .address detail => "cannot connect to database: invalid uri: " ++ detail
  | .connection detail => "cannot connect to database: " ++ detail
  | .query collection detail => "query on `" ++ collection ++ "` failed: " ++ detail

structure Store.Survey where
  commands : List Command
  schema : Except Store.Fault (List Collection)

structure Store where
  find : String → Document → Nat → Except Store.Fault (List Document)
  count : String → Document → Except Store.Fault Nat
  aggregate : String → List Document → Nat → Except Store.Fault (List Document)
  /-- Any one document of a collection. -/
  sample : String → Except Store.Fault (Option Document)
  survey : Store.Survey

inductive Result where
  | documents (documents : List Document)
  | count (count : Nat)

namespace Store

def identified (found : Except Fault (List Document)) : Except Fault (List Document) :=
  found.map fun documents => documents.map Document.withTextId

def findDocuments (store : Store) (collection : String) (filter : Document) (limit : Nat) :
    Except Fault (List Document) :=
  identified (store.find collection filter limit)

def aggregateDocuments (store : Store) (collection : String) (pipeline : List Document)
    (limit : Nat) : Except Fault (List Document) :=
  identified (store.aggregate collection pipeline limit)

def fieldSamples (store : Store) (collection : String) (length : Nat) : List FieldSample :=
  match store.sample collection with
  | .ok (some document) => Schema.samplesOf length document
  | _ => []

def commandOf (query : Query) (limit : Nat) : Command :=
  match query.operation with
  | .find filter => .find query.collection filter limit
  | .count filter => .count query.collection filter
  | .aggregate pipeline => .aggregate query.collection pipeline limit

def run (store : Store) : Command → Except Fault Result
  | .find collection filter limit => (store.findDocuments collection filter limit).map .documents
  | .count collection filter => (store.count collection filter).map .count
  | .aggregate collection pipeline limit =>
    (store.aggregateDocuments collection pipeline limit).map .documents

/-- Runs a command, which then stands in the log, also where it fails. -/
def send (store : Store) (log : List Command) (command : Command) :
    Except Fault Result × List Command :=
  (store.run command, log ++ [command])

end Store
end Inquiry
