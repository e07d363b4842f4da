import Inquiry.Files.Tree
import Inquiry.Logging
import Inquiry.Text.Cut

/-! The settings of the program, and the values they have when a file does not say. -/
namespace Inquiry.Settings

structure Database where
  uri : String := "mongodb://localhost:27017"
  name : String := "ai_test_db"
  /-- How long to look for a server. -/
  timeoutMillis : Nat := 5000
  /-- The most documents that any query returns. -/
  resultLimit : Nat := 10
  /-- The length to which sample values are cut. -/
  sampleLength : Nat := 50

structure Endpoint where
  url : String
  model : String
  timeoutSeconds : Nat

structure Embeddings where
  provider : String := "ollama"
  ollama : Endpoint := ⟨"http://localhost:11434/api/embed", "all-minilm", 30⟩
  openai : Endpoint := ⟨"https://api.openai.com/v1/embeddings", "text-embedding-3-small", 30⟩
  /-- The number of places of the hashing embedder. -/
  dimension : Nat := 384

structure Generation where
  endpoint : Endpoint
  temperature : Float32 := 0

structure Models where
  provider : String := "ollama"
  ollama : Generation := ⟨⟨"http://localhost:11434/api/generate", "qwen2.5:3b", 60⟩, 0⟩
  /-- The bound on generated tokens. -/
  tokenLimit : Nat := 120
  openai : Generation := ⟨⟨"https://api.openai.com/v1/chat/completions", "gpt-4o-mini", 60⟩, 0⟩
  /-- What the offline model answers; without it, the prompt comes back. -/
  fixedReply : Option String := none

structure Ranking where
  topCollections : Nat := 3
  topFields : Nat := 3
  /-- A question whose best collection scores less is out of scope. -/
  minTopScore : Float32 := 0.3
  /-- Collections that score less are left out of the prompt. -/
  minScore : Float32 := 0.2
  /-- Fields listed where no live document can be read. -/
  staticFields : Nat := 5
  /-- Under the work directory; the name of the database stands in for `{database}`. -/
  cacheFile : String := "embeddings-\x7bdatabase\x7d.json"

end Settings

structure Settings where
  appName : String := "docquery"
  workDirectory : String := "~/.docquery"
  logLevel : String := "info"
  database : Settings.Database := {}
  embeddings : Settings.Embeddings := {}
  models : Settings.Models := {}
  ranking : Settings.Ranking := {}
  promptDirectory : String := "config/prompts"
  modelKey : Option String := none
  embeddingKey : Option String := none

namespace Settings

def databaseMark : String := "\x7bdatabase\x7d"

def cachePath (settings : Settings) : String :=
  let name? (text : List Char) :=
    (Text.after? databaseMark.toList text).map fun rest => (settings.database.name.toList, rest)
  Path.join settings.workDirectory
    (String.ofList (Text.replaceAll name? settings.ranking.cacheFile.toList))

inductive Fault where
  | unreadable (path : String) (fault : Files.Fault)
  | malformed (path : String)
  | logLevel (fault : Logging.Fault)
  | noResults
  | noCollections
  | arguments (detail : String)

def Fault.message : Fault → String
  | .unreadable path fault => "cannot read " ++ path ++ ": " ++ fault.message
  | .malformed path => "parse error in " ++ path ++ ": not a file of settings"
  | .logLevel fault => "app.log_level: logger error: " ++ fault.message
  | .noResults => "database.result_limit must be at least 1"
  | .noCollections => "ranking.top_collections must be at least 1"
  | .arguments detail => detail

end Settings
end Inquiry
