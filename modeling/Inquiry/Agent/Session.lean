import Inquiry.Agent.Basic
import Inquiry.Completion.Service
import Inquiry.Embedding.Service
import Inquiry.Failure
import Inquiry.Store.Server

/-!
An agent at work: what it has sent to the database so far, and the files it works with. A step that
fails leaves the agent and its cache as they were.
-/
namespace Inquiry

structure Session where
  agent : Agent
  executed : List Command
  files : Files

namespace Session

structure Parts where
  settings : Settings
  store : Store
  embedder : Embedder
  model : Model

def cacheTask (settings : Settings) (embedder : Embedder) (now : Int) (schema : List Collection) :
    Cache.Task where
  embedder := embedder
  path := settings.cachePath
  created := String.ofList ((Calendar.internetText? now).getD (Calendar.spacedText now))
  schema := schema

structure Indexing where
  files : Files
  commands : List Command
  index : Except Failure Index

def indexing (settings : Settings) (store : Store) (embedder : Embedder) (occasion : Occasion)
    (force : Bool) : Indexing :=
  let commands := store.survey.commands
  match store.survey.schema with
  | .error fault => ⟨occasion.files, commands, .error (.database fault)⟩
  | .ok schema =>
    let (files, index) :=
      (cacheTask settings embedder occasion.now schema).run occasion.files force
    ⟨files, commands, index.mapError .embedding⟩

/-- The outcome of a step, with what it has sent and written even if it fails. -/
structure Step (α : Type) where
  files : Files
  commands : List Command
  outcome : Except Failure α

def ofParts (parts : Parts) (occasion : Occasion) : Step Session :=
  let indexing := indexing parts.settings parts.store parts.embedder occasion false
  ⟨indexing.files, indexing.commands, indexing.index.map fun index =>
    ⟨⟨parts.settings, parts.store, parts.embedder, parts.model, index⟩, indexing.commands,
      indexing.files⟩⟩

structure Outside where
  reach : String → Except String Server
  network : Http.Network

def parts (outside : Outside) (settings : Settings) : Except Failure Parts := do
  let store ← (Server.connect outside.reach settings.database.uri).mapError .database
  let embedder ←
    (Embedding.embedder outside.network settings.embeddings settings.embeddingKey).mapError
      .embedding
  let model ←
    (Completion.model outside.network settings.models settings.modelKey).mapError .completion
  return ⟨settings, store, embedder, model⟩

def start (outside : Outside) (settings : Settings) (occasion : Occasion) : Step Session :=
  match parts outside settings with
  | .error failure => ⟨occasion.files, [], .error failure⟩
  | .ok parts => ofParts parts occasion

def ask (session : Session) (now : Int) (text : String) : Reply × Session :=
  let turn := session.agent.ask ⟨session.files, now⟩ session.executed text
  (turn.reply,
    { session with
      agent := { session.agent with model := turn.model }
      executed := turn.log })

def reindex (session : Session) (now : Int) : Except Failure Nat × Session :=
  let agent := session.agent
  let indexing := indexing agent.settings agent.store agent.embedder ⟨session.files, now⟩ true
  let executed := session.executed ++ indexing.commands
  match indexing.index with
  | .error failure => (.error failure, { session with executed, files := indexing.files })
  | .ok index =>
    (.ok index.size, { agent := { agent with index }, executed, files := indexing.files })

end Session
end Inquiry
