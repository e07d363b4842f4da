import Inquiry.Settings.Basic
import Inquiry.Toml.Reading
import Inquiry.Toml.Record

/-!
Settings from a file and from the environment. The environment wins; what neither says has its
usual value.
-/
namespace Inquiry.Settings

open Toml

structure Overrides where
  workDirectory : Option String := none
  logLevel : Option String := none
  uri : Option String := none
  database : Option String := none

abbrev Environment := List (String × String)

def valueOf? (environment : Environment) (name : String) : Option String :=
  (environment.find? fun entry => entry.1 = name).map (·.2)

def variableNames : List String :=
  ["DOCQUERY_CONFIG", "DOCQUERY_WORK_DIR", "DOCQUERY_LOG_LEVEL", "DOCQUERY_MONGODB_URI",
   "DOCQUERY_DATABASE", "LLM_API_KEY", "EMBEDDING_API_KEY"]

def Overrides.ofEnvironment (environment : Environment) : Overrides where
  workDirectory := valueOf? environment "DOCQUERY_WORK_DIR"
  logLevel := valueOf? environment "DOCQUERY_LOG_LEVEL"
  uri := valueOf? environment "DOCQUERY_MONGODB_URI"
  database := valueOf? environment "DOCQUERY_DATABASE"

def named (names : List String) : List Member := names.map fun name => ⟨name, true⟩

def wholly (names : List String) : List Member := names.map fun name => ⟨name, false⟩

def app? (settings : Settings) (value : Toml) : Option Settings := do
  let members ← members? (named ["name", "work_dir", "log_level"]) value
  return { settings with
    appName := ← member? members "name" text? settings.appName
    workDirectory := ← member? members "work_dir" text? settings.workDirectory
    logLevel := ← member? members "log_level" text? settings.logLevel }

def databaseNames : List String :=
  ["uri", "name", "server_selection_timeout_ms", "result_limit", "sample_chars"]

def database? (value : Toml) : Option Database := do
  let usual : Database := {}
  let members ← members? (named databaseNames) value
  return ⟨← member? members "uri" text? usual.uri, ← member? members "name" text? usual.name,
    ← member? members "server_selection_timeout_ms" nat? usual.timeoutMillis,
    ← member? members "result_limit" nat? usual.resultLimit,
    ← member? members "sample_chars" nat? usual.sampleLength⟩

def endpoint? (usual : Endpoint) (value : Toml) : Option Endpoint := do
  let members ← members? (wholly ["api_base_url", "model", "timeout_seconds"]) value
  return ⟨← member? members "api_base_url" text? usual.url,
    ← member? members "model" text? usual.model,
    ← member? members "timeout_seconds" nat? usual.timeoutSeconds⟩

def hashing? (usual : Nat) (value : Toml) : Option Nat := do
  member? (← members? (named ["dimension"]) value) "dimension" nat? usual

def embeddings? (value : Toml) : Option Embeddings := do
  let usual : Embeddings := {}
  let members ← members? (named ["default", "ollama", "openai", "hash"]) value
  return ⟨← member? members "default" text? usual.provider,
    ← member? members "ollama" (endpoint? usual.ollama) usual.ollama,
    ← member? members "openai" (endpoint? usual.openai) usual.openai,
    ← member? members "hash" (hashing? usual.dimension) usual.dimension⟩

def generation? (usual : Generation) (members : List (String × Toml)) : Option Generation := do
  return ⟨⟨← member? members "api_base_url" text? usual.endpoint.url,
      ← member? members "model" text? usual.endpoint.model,
      ← member? members "timeout_seconds" nat? usual.endpoint.timeoutSeconds⟩,
    ← member? members "temperature" float32? usual.temperature⟩

def ollama? (usual : Models) (value : Toml) : Option (Generation × Nat) := do
  let names := ["api_base_url", "model", "temperature", "num_predict", "timeout_seconds"]
  let members ← members? (named names) value
  return (← generation? usual.ollama members,
    ← member? members "num_predict" (natBelow? 0x100000000) usual.tokenLimit)

def openai? (usual : Generation) (value : Toml) : Option Generation := do
  generation? usual
    (← members? (named ["api_base_url", "model", "temperature", "timeout_seconds"]) value)

def reply? (value : Toml) : Option (Option String) := do
  let members ← members? (wholly ["reply"]) value
  member? members "reply" (fun value => (text? value).map some) none

def models? (value : Toml) : Option Models := do
  let usual : Models := {}
  let members ← members? (named ["default", "ollama", "openai", "dummy"]) value
  let (ollama, tokenLimit) ←
    member? members "ollama" (ollama? usual) (usual.ollama, usual.tokenLimit)
  return ⟨← member? members "default" text? usual.provider, ollama, tokenLimit,
    ← member? members "openai" (openai? usual.openai) usual.openai,
    ← member? members "dummy" reply? usual.fixedReply⟩

def rankingNames : List String :=
  ["top_collections", "top_fields", "min_top_score", "min_score", "static_field_fallback",
   "cache_file"]

def ranking? (value : Toml) : Option Ranking := do
  let usual : Ranking := {}
  let members ← members? (named rankingNames) value
  return ⟨← member? members "top_collections" nat? usual.topCollections,
    ← member? members "top_fields" nat? usual.topFields,
    ← member? members "min_top_score" float32? usual.minTopScore,
    ← member? members "min_score" float32? usual.minScore,
    ← member? members "static_field_fallback" nat? usual.staticFields,
    ← member? members "cache_file" text? usual.cacheFile⟩

def promptDirectory? (usual : String) (value : Toml) : Option String := do
  member? (← members? (named ["dir"]) value) "dir" text? usual

def ofToml? (file : Toml) : Option Settings := do
  let usual : Settings := {}
  let members ← members? [] file
  let settings ← member? members "app" (app? usual) usual
  return { settings with
    database := ← member? members "database" database? usual.database
    embeddings := ← member? members "embedding" embeddings? usual.embeddings
    models := ← member? members "llm" models? usual.models
    ranking := ← member? members "ranking" ranking? usual.ranking
    promptDirectory := ← member? members "prompts" (promptDirectory? usual.promptDirectory)
      usual.promptDirectory }

def resolve (home : Option String) (overrides : Overrides) (stated : Settings) :
    Except Fault Settings := do
  let level := overrides.logLevel.getD stated.logLevel
  match Logging.level level with
  | .error fault => .error (.logLevel fault)
  | .ok _ =>
    if stated.database.resultLimit = 0 then .error .noResults
    else if stated.ranking.topCollections = 0 then .error .noCollections
    else .ok { stated with
      workDirectory := Path.expandHome home (overrides.workDirectory.getD stated.workDirectory)
      logLevel := level
      database := { stated.database with
        uri := overrides.uri.getD stated.database.uri
        name := overrides.database.getD stated.database.name } }

structure Surroundings where
  files : Files
  environment : Environment
  home : Option String

def read (surroundings : Surroundings) (path : String) (overrides : Overrides) :
    Except Fault Settings := do
  match surroundings.files.read path with
  | .error fault => .error (.unreadable path fault)
  | .ok text =>
    match (Toml.ofText? text).bind ofToml? with
    | none => .error (.malformed path)
    | some stated =>
      let settings ← resolve surroundings.home overrides stated
      return { settings with
        modelKey := valueOf? surroundings.environment "LLM_API_KEY"
        embeddingKey := valueOf? surroundings.environment "EMBEDDING_API_KEY" }

def usualPath : String := "config/default.toml"

def pathOf (environment : Environment) (asked : Option String) : String :=
  (asked.or (valueOf? environment "DOCQUERY_CONFIG")).getD usualPath

def load (surroundings : Surroundings) (asked : Option String) : Except Fault Settings :=
  read surroundings (pathOf surroundings.environment asked)
    (.ofEnvironment surroundings.environment)

end Inquiry.Settings
