import Inquiry.Store.Address
import Inquiry.Store.Basic

/-!
A database behind a server, which sends documents in batches and may refuse any command. A
collection that cannot be described is left out of the schema.
-/
namespace Inquiry

inductive Cursor where
  | last (batch : List Document)
  | more (batch : List Document) (next : Except String Cursor)

namespace Cursor

/-- At most `limit` documents; a batch that is not needed is not asked for. -/
def drain (limit : Nat) : Cursor → Except String (List Document)
  | last batch => .ok (batch.take limit)
  | more batch next =>
    if limit ≤ batch.length then .ok (batch.take limit)
    else match next with
      | .error detail => .error detail
      | .ok cursor => (cursor.drain (limit - batch.length)).map (batch ++ ·)

end Cursor

structure Server where
  ping : Except String Unit
  collections : Except String (List String)
  find : String → Document → Nat → Except String Cursor
  sample : String → Except String (Option Document)
  count : String → Document → Except String Nat
  aggregate : String → List Document → Except String Cursor
  indexes : String → Except String (List String)

namespace Server

def maxLimit : Nat := 0x7fffffffffffffff

def queried {α : Type} (collection : String) (answer : Except String α) : Except Store.Fault α :=
  answer.mapError (.query collection)

def describe (server : Server) (name : String) : Except String Collection := do
  let count ← server.count name []
  let sample ← server.sample name
  let indexes := ((server.indexes name).toOption).getD []
  return Schema.collection name ((sample.map Schema.fieldsOf).getD []) count indexes

def described (server : Server) (names : List String) : List Collection :=
  (names.filterMap fun name => (server.describe name).toOption).mergeSort
    fun first second => first.name ≤ second.name

def survey (server : Server) : Store.Survey :=
  match server.collections with
  | .error detail => ⟨[], .error (.query "*" detail)⟩
  | .ok all =>
    let names := all.filter fun name => !Schema.isSystem name
    ⟨names.map fun name => .count name [], .ok (server.described names)⟩

def store (server : Server) : Store where
  find name filter limit :=
    queried name (server.find name filter (min limit maxLimit) >>= Cursor.drain limit)
  count name filter := queried name (server.count name filter)
  aggregate name pipeline limit :=
    queried name (server.aggregate name pipeline >>= Cursor.drain limit)
  sample name := queried name (server.sample name)
  survey := server.survey

def connect (reach : String → Except String Server) (uri : String) : Except Store.Fault Store := do
  if !Address.isValid uri then .error (.address "no list of hosts")
  let server ← (reach uri).mapError .connection
  server.ping.mapError .connection
  return server.store

end Server
end Inquiry
