import Inquiry.Files.Tree
import Inquiry.Index.Basic
import Inquiry.Index.Fingerprint
import Inquiry.Json.Record
import Inquiry.Json.Writing

/-!
An index kept in a file under the fingerprint of the schema it was made for. A file that does not
fit is as good as none, and one that cannot be written does no harm.
-/
namespace Inquiry.Cache

structure Record where
  fingerprint : String
  embedder : String
  created : String
  index : Index

inductive Fault where
  | access (fault : Files.Fault)
  | malformed

def Fault.message : Fault → String
  | .access fault => "cannot access cache file: " ++ fault.message
  | .malformed => "malformed cache file: not a record of an index"

def vectorJson (vector : Vector32) : Json := .list (vector.map fun x => .number (.single x))

def fieldJson (field : Field) : Json :=
  .object [("name", .text field.name), ("type_name", .text field.kind)]

def entryJson (entry : Index.Entry) : Json :=
  .object
    [("description", .text entry.description),
     ("collection_embedding", vectorJson entry.vector),
     ("fields", .list (entry.fields.map fieldJson)),
     ("field_embeddings",
      .object (entry.fieldVectors.entries.map fun (name, vector) => (name, vectorJson vector))),
     ("doc_count", .number (.integer entry.count)),
     ("indexed_fields", .list (entry.indexes.map .text))]

def recordJson (record : Record) : Json :=
  .object
    [("fingerprint", .text record.fingerprint),
     ("embedder", .text record.embedder),
     ("created_at", .text record.created),
     ("collections", .object (record.index.entries.map fun (name, entry) => (name, entryJson entry)))]

def Record.text (record : Record) : String := (recordJson record).pretty 0

def vector? : Json → Option Vector32 := Json.listOf? Json.float32?

def field? (value : Json) : Option Field := do
  match ← Json.record? ["name", "type_name"] value with
  | [name, kind] => return ⟨← Json.text? name, ← Json.text? kind⟩
  | _ => none

def catalog? {α : Type} (item? : Json → Option α) (value : Json) : Option (Catalog α) := do
  let entries ← Json.entries? value
  return .ofList (← entries.mapM fun (name, item) => do return (name, ← item? item))

def entryNames : List String :=
  ["description", "collection_embedding", "fields", "field_embeddings", "doc_count",
   "indexed_fields"]

def entry? (value : Json) : Option Index.Entry := do
  match ← Json.record? entryNames value with
  | [description, vector, fields, fieldVectors, count, indexes] =>
    return ⟨← Json.text? description, ← vector? vector, ← Json.listOf? field? fields,
      ← catalog? vector? fieldVectors, ← Json.count? count, ← Json.listOf? Json.text? indexes⟩
  | _ => none

def record? (value : Json) : Option Record := do
  match ← Json.record? ["fingerprint", "embedder", "created_at", "collections"] value with
  | [fingerprint, embedder, created, index] =>
    return ⟨← Json.text? fingerprint, ← Json.text? embedder, ← Json.text? created,
      ← catalog? entry? index⟩
  | _ => none

def Record.ofText? (text : String) : Option Record := (Json.parse? text.toList).bind record?

def load (files : Files) (path fingerprint : String) : Except Fault (Option Index) :=
  if files.isThere path then
    match files.read path with
    | .error fault => .error (.access fault)
    | .ok text =>
      match Record.ofText? text with
      | none => .error .malformed
      | some record => .ok (if record.fingerprint = fingerprint then some record.index else none)
  else .ok none

def save (files : Files) (path : String) (record : Record) : Except Fault Files :=
  match files.makeParent path with
  | .error fault => .error (.access fault)
  | .ok files =>
    match files.write path record.text with
    | .error fault => .error (.access fault)
    | .ok files => .ok files

structure Task where
  embedder : Embedder
  path : String
  /-- The time of writing. -/
  created : String
  schema : List Collection

def Task.fingerprint (task : Task) : String :=
  Fingerprint.ofSchema task.embedder.descriptor task.schema

def Task.record (task : Task) (index : Index) : Record :=
  ⟨task.fingerprint, task.embedder.descriptor, task.created, index⟩

/-- The files with the index in place; where it cannot be written, the directories made for it stay. -/
def Task.stored (task : Task) (files : Files) (index : Index) : Files :=
  match save files task.path (task.record index) with
  | .ok files => files
  | .error _ => files.withParent task.path

def Task.built (task : Task) (files : Files) : Files × Except Embedding.Fault Index :=
  match Index.build task.embedder task.schema with
  | .error fault => (files, .error fault)
  | .ok index => (task.stored files index, .ok index)

/-- A cached index brought up to date; it is written again only if a vector has changed. -/
def Task.updated (task : Task) (files : Files) (index : Index) :
    Files × Except Embedding.Fault Index :=
  match Index.refresh task.embedder index task.schema with
  | .error fault => (files, .error fault)
  | .ok (0, index) => (files, .ok index)
  | .ok (_, index) => (task.stored files index, .ok index)

def Task.run (task : Task) (files : Files) (force : Bool) : Files × Except Embedding.Fault Index :=
  if force then task.built files
  else
    match load files task.path task.fingerprint with
    | .ok (some index) => task.updated files index
    | _ => task.built files

end Inquiry.Cache
