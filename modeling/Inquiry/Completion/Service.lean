import Inquiry.Completion.Basic
import Inquiry.Http.Basic
import Inquiry.Json.Record
import Inquiry.Settings.Basic

/-! Models behind HTTP, in the two protocols that are spoken, and the choice among all models. -/
namespace Inquiry.Completion

open Http

def failed (detail : String) : Except Fault String := .error (.request detail)

def unreadable : Except Fault String :=
  failed ("failed to parse response body: " ++ undecodable)

/-! One prompt and one text. -/
namespace Generate

def request (settings : Settings.Generation) (tokenLimit : Nat) (prompt : Prompt) : Request where
  url := settings.endpoint.url
  body := .object
    [("model", .text settings.endpoint.model),
     ("prompt", .text (prompt.system ++ "\n\n" ++ prompt.user)),
     ("stream", .bool false),
     ("options", .object
       [("temperature", .number (.single settings.temperature)),
        ("num_predict", .number (.integer tokenLimit))])]

def errorText? (text : String) : Option String := do
  match ← Json.record? ["error"] (← Json.parse? text.toList) with
  | [error] => Json.text? error
  | _ => none

/-- The text of a response; one that is left out is empty. -/
def text? (body : Json) : Option String := do
  match ← Json.members? [⟨"response", false⟩] body with
  | [some text] => Json.text? text
  | _ => some ""

def reply (response : Response) : Except Fault String :=
  if response.isSuccess then
    match response.json?.bind text? with
    | none => unreadable
    | some text =>
      let text := Text.trimmed text
      if text = "" then failed "empty response from model" else .ok text
  else
    failed (failure response.status (": " ++ (errorText? response.text).getD response.text))

end Generate

/-! Messages with roles and a list of choices. -/
namespace Chat

def isWithoutTemperature (model : String) : Bool := Text.startsWith "gpt-5".toList model.toList

def message (role content : String) : Json :=
  .object [("role", .text role), ("content", .text content)]

def temperature (settings : Settings.Generation) : List (String × Json) :=
  if isWithoutTemperature settings.endpoint.model then []
  else [("temperature", .number (.single settings.temperature))]

def request (settings : Settings.Generation) (key : Option String) (prompt : Prompt) : Request where
  url := settings.endpoint.url
  key := key
  body := .object <|
    [("model", .text settings.endpoint.model),
     ("messages", .list [message "system" prompt.system, message "user" prompt.user])]
      ++ temperature settings

/-- Containers around a code, which count towards the bound on depth. -/
def containersAroundCode : Nat := 2

def isAdmissibleCode (code : Json) : Bool :=
  code.bounded && code.depth + containersAroundCode ≤ Json.maxDepth

mutual

/-- A code as it is shown: a repeated key keeps its last value. -/
def settled : Json → Json
  | .list items => .list (settledItems items)
  | .object entries => .object (Json.lastWins (settledEntries entries))
  | value => value

def settledItems : List Json → List Json
  | [] => []
  | item :: rest => settled item :: settledItems rest

def settledEntries : List (String × Json) → List (String × Json)
  | [] => []
  | (key, value) :: rest => (key, settled value) :: settledEntries rest

end

def codeText : Option Json → Option String
  | none | some .null => some ""
  | some (.text code) => some (" [code=" ++ code ++ "]")
  | some code =>
    if isAdmissibleCode code then some (" [code=" ++ (settled code).compact ++ "]") else none

def errorBody? (error : Json) : Option String := do
  match ← Json.members? [⟨"message", true⟩, ⟨"code", false⟩] error with
  | [some message, code] => return (← codeText code) ++ ": " ++ (← Json.text? message)
  | _ => none

def errorText? (text : String) : Option String := do
  match ← Json.record? ["error"] (← Json.parse? text.toList) with
  | [error] => errorBody? error
  | _ => none

def content? (message : Json) : Option (Option String) := do
  match ← Json.members? [⟨"content", false⟩] message with
  | [some .null] | [none] => some none
  | [some content] => (Json.text? content).map some
  | _ => none

def choice? (choice : Json) : Option (Option String) := do
  match ← Json.record? ["message"] choice with
  | [message] => content? message
  | _ => none

def choices? (body : Json) : Option (List (Option String)) := do
  match ← Json.record? ["choices"] body with
  | [choices] => Json.listOf? choice? choices
  | _ => none

def reply (response : Response) : Except Fault String :=
  if response.isSuccess then
    match response.json?.bind choices? with
    | none => unreadable
    | some choices =>
      let text := Text.trimmed ((choices.head?.getD none).getD "")
      if text = "" then failed "empty or missing content in response" else .ok text
  else failed (failure response.status ((errorText? response.text).getD (": " ++ response.text)))

end Chat

def asked (network : Network) (request : Request) (reply : Response → Except Fault String) :
    Except Fault String :=
  match send network request with
  | .error detail => failed detail
  | .ok response => reply response

def ollama (network : Network) (settings : Settings.Generation) (tokenLimit : Nat) : Model :=
  .service ("ollama:" ++ settings.endpoint.model) fun prompt =>
    asked network (Generate.request settings tokenLimit prompt) Generate.reply

def openai (network : Network) (settings : Settings.Generation) (key : Option String) : Model :=
  .service ("openai:" ++ settings.endpoint.model) fun prompt =>
    asked network (Chat.request settings key prompt) Chat.reply

def model (network : Network) (settings : Settings.Models) (key : Option String) :
    Except Fault Model :=
  match settings.provider with
  | "dummy" => .ok (.scripted settings.fixedReply.toList 0)
  | "ollama" => .ok (ollama network settings.ollama settings.tokenLimit)
  | "openai" | "openai-compatible" => .ok (openai network settings.openai key)
  | name => .error (.unknownProvider name)

end Inquiry.Completion
