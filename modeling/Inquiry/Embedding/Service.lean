import Inquiry.Embedding.Hashing
import Inquiry.Http.Basic
import Inquiry.Json.Record
import Inquiry.Settings.Basic

/-! Embedders behind HTTP, in the two protocols that are spoken, and the choice among all. -/
namespace Inquiry.Embedding

open Http

def request (endpoint : Settings.Endpoint) (key : Option String) (text : String) : Request where
  url := endpoint.url
  key := key
  body := .object [("model", .text endpoint.model), ("input", .text text)]

def vector? : Json → Option Vector32 := Json.listOf? Json.float32?

def optionalList? {α : Type} (name : String) (item? : Json → Option α) (body : Json) :
    Option (List α) := do
  match ← Json.members? [⟨name, false⟩] body with
  | [some items] => Json.listOf? item? items
  | _ => some []

def vectors? : Json → Option (List Vector32) := optionalList? "embeddings" vector?

def embedded? (item : Json) : Option Vector32 := do
  match ← Json.record? ["embedding"] item with
  | [vector] => vector? vector
  | _ => none

def dataVectors? : Json → Option (List Vector32) := optionalList? "data" embedded?

def errorMessage? (text : String) : Option String := do
  match ← Json.record? ["error"] (← Json.parse? text.toList) with
  | [error] =>
    match ← Json.record? ["message"] error with
    | [message] => Json.text? message
    | _ => none
  | _ => none

def firstVector (response : Response) (read? : Json → Option (List Vector32)) (missing : String) :
    Except Fault Vector32 :=
  match response.json?.bind read? with
  | none => .error (.response undecodable)
  | some [] => .error (.response missing)
  | some (vector :: _) => .ok vector

def ollamaReply (response : Response) : Except Fault Vector32 :=
  if response.isSuccess then firstVector response vectors? "no embeddings in response"
  else .error (.request (failure response.status (": " ++ response.text)))

def openaiReply (response : Response) : Except Fault Vector32 :=
  if response.isSuccess then firstVector response dataVectors? "no data in response"
  else
    let detail := (errorMessage? response.text).getD response.text
    .error (.request (failure response.status (": " ++ detail)))

def asked (network : Network) (request : Request) (reply : Response → Except Fault Vector32) :
    Except Fault Vector32 :=
  match send network request with
  | .error detail => .error (.request detail)
  | .ok response => reply response

def ollama (network : Network) (endpoint : Settings.Endpoint) : Embedder where
  descriptor := "ollama:" ++ endpoint.model
  vector text := asked network (request endpoint none text) ollamaReply

def openai (network : Network) (endpoint : Settings.Endpoint) (key : Option String) : Embedder where
  descriptor := "openai:" ++ endpoint.model
  vector text := asked network (request endpoint key text) openaiReply

def embedder (network : Network) (settings : Settings.Embeddings) (key : Option String) :
    Except Fault Embedder :=
  match settings.provider with
  | "hash" => .ok (Hashing.embedder settings.dimension)
  | "ollama" => .ok (ollama network settings.ollama)
  | "openai" | "openai-compatible" => .ok (openai network settings.openai key)
  | name => .error (.unknownProvider name)

end Inquiry.Embedding
