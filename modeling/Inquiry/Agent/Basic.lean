import Inquiry.Agent.Reply
import Inquiry.Answer.Rendering
import Inquiry.Canned
import Inquiry.Gate.Operator
import Inquiry.Gate.Question
import Inquiry.Gate.Script
import Inquiry.Gate.Verdict
import Inquiry.Prompt.Context
import Inquiry.Prompt.Question
import Inquiry.Query.Reading

/-!
Answering a question: the question is screened, a query that is known beforehand or one that the
model writes is screened, and only then does anything reach the database.
-/
namespace Inquiry

structure Agent where
  settings : Settings
  store : Store
  embedder : Embedder
  model : Model
  index : Index

structure Occasion where
  files : Files
  now : Int

structure Turn where
  reply : Reply
  log : List Command
  model : Model

namespace Agent

def limit (agent : Agent) : Nat := agent.settings.database.resultLimit

def contextSource (agent : Agent) : Context.Source :=
  ⟨agent.index, agent.store, agent.settings.ranking, agent.settings.database.sampleLength⟩

def rendered (result : Result) (question collection : String) : String :=
  match result with
  | .documents documents => Answer.render documents ⟨question, collection⟩
  | .count count => Answer.countSentence count ⟨question, collection⟩

def accepted (agent : Agent) (now : Int) (code : String) : Except Reply Query :=
  match Gate.verdict code with
  | .unable => .error .unable
  | .modificationRefused => .error .modificationRefused
  | .outOfScope => .error .outOfScope
  | .query =>
    match Gate.screenScript code with
    | some blocked => .error (.scriptBlocked blocked)
    | none =>
      match Query.ofText now code with
      | .error fault => .error (.unreadable fault code)
      | .ok query =>
        match Gate.screenQuery query with
        | some blocked => .error (.scriptBlocked blocked)
        | none =>
          if agent.index.contains query.collection then .ok query
          else .error (.unknownCollection query.collection code)

def executed (agent : Agent) (log : List Command) (question code : String) (query : Query) :
    Reply × List Command :=
  match agent.store.send log (Store.commandOf query agent.limit) with
  | (.ok result, log) => (.answered (rendered result question query.collection), log)
  | (.error fault, log) => (.queryFailed fault code question, log)

def finished (agent : Agent) (now : Int) (log : List Command) (question : String) (model : Model)
    (code : String) : Turn :=
  match agent.accepted now code with
  | .error reply => ⟨reply, log, model⟩
  | .ok query =>
    let (reply, log) := agent.executed log question code query
    ⟨reply, log, model⟩

def generated (agent : Agent) (occasion : Occasion) (log : List Command) (question : String) :
    Turn :=
  match agent.embedder.embed question with
  | .error fault => ⟨.embeddingFailed fault, log, agent.model⟩
  | .ok vector =>
    match Context.build agent.contextSource vector with
    | .irrelevant => ⟨.notRelated, log, agent.model⟩
    | .relevant text _ =>
      let prompt :=
        Prompt.forQuestion occasion.files agent.settings.promptDirectory text question
      match agent.model.complete prompt with
      | (.error fault, model) => ⟨.completionFailed fault, log, model⟩
      | (.ok code, model) => agent.finished occasion.now log question model code

/-- A question that has passed its gate; where a known query fails, the model is asked. -/
def answered (agent : Agent) (occasion : Occasion) (log : List Command) (question : String) :
    Turn :=
  match Canned.query? question agent.index agent.limit with
  | none => agent.generated occasion log question
  | some canned =>
    match agent.store.send log (.aggregate canned.collection canned.pipeline agent.limit) with
    | (.ok result, log) =>
      ⟨.answered (rendered result question canned.collection), log, agent.model⟩
    | (.error _, log) => agent.generated occasion log question

def ask (agent : Agent) (occasion : Occasion) (log : List Command) (text : String) : Turn :=
  let question := Text.trimmed text
  match Gate.screenQuestion question with
  | some _ => ⟨.questionBlocked, log, agent.model⟩
  | none => agent.answered occasion log question

def fieldSummary (field : Field) : String := field.name ++ " (" ++ field.kind ++ ")"

def collectionSummary (name : String) (entry : Index.Entry) : String :=
  "\n- " ++ name ++ ": " ++ Decimal.natText entry.count ++ " documents; fields: "
    ++ ", ".intercalate (entry.fields.map fieldSummary)

def summary (agent : Agent) : String :=
  let size := agent.index.size
  "Database `" ++ agent.settings.database.name ++ "`: " ++ Decimal.natText size ++ " collection"
    ++ (if size = 1 then "" else "s") ++ " (embedder " ++ agent.embedder.descriptor ++ ", model "
    ++ agent.model.label ++ ")"
    ++ String.join (agent.index.entries.map fun (name, entry) => collectionSummary name entry)

end Agent
end Inquiry
