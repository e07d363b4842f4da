import Inquiry.Proofs.Agent.Log
import Inquiry.Proofs.Prompt.Context
import Inquiry.Store.Memory
import Mathlib

/-! All that one question can come to, with everything that leads there. -/
namespace Inquiry.Agent

def knownCommand? (agent : Agent) (question : String) : Option Command :=
  (Canned.query? question agent.index agent.limit).map fun canned =>
    .aggregate canned.collection canned.pipeline agent.limit

def Unsettled (agent : Agent) (question : String) : Prop :=
  ∀ command ∈ agent.knownCommand? question, ¬ agent.store.Serves command

def Concerns (agent : Agent) (question text : String) : Prop :=
  ∃ vector names, agent.embedder.embed question = .ok vector ∧
    Context.build agent.contextSource vector = .relevant text names

def promptFor (agent : Agent) (files : Files) (question text : String) : Prompt :=
  Prompt.forQuestion files agent.settings.promptDirectory text question

def Admits (agent : Agent) (now : Int) (code : String) (query : Query) : Prop :=
  Gate.verdict code = .query ∧ Gate.screenScript code = none ∧ Query.ofText now code = .ok query ∧
    Gate.screenQuery query = none ∧ agent.index.contains query.collection = true

theorem accepted_ok {agent : Agent} {now : Int} {code : String} {query : Query} :
    agent.accepted now code = .ok query ↔ agent.Admits now code query := by
  unfold accepted Admits
  cases Gate.verdict code with
  | unable | modificationRefused | outOfScope => simp
  | query =>
    cases Gate.screenScript code with
    | some blocked => simp
    | none =>
      cases Query.ofText now code with
      | error fault => simp
      | ok found =>
        simp only [true_and, Except.ok.injEq]
        constructor
        · intro judged
          split at judged
          next => cases judged
          next harmless =>
            split at judged
            next indexed =>
              cases judged
              exact ⟨rfl, harmless, indexed⟩
            next => cases judged
        · rintro ⟨rfl, harmless, indexed⟩
          simp [harmless, indexed]

/-- A refusal is no answer. -/
theorem accepted_error {agent : Agent} {now : Int} {code : String} {reply : Reply}
    (refused : agent.accepted now code = .error reply) : reply.status ≠ .answered := by
  unfold accepted at refused
  repeat' split at refused
  all_goals cases refused
  all_goals simp [Reply.status]

/-- The ways of a question, one for each place where it can end. -/
inductive Course (agent : Agent) (occasion : Occasion) (question : String) : Turn → Prop
  | blocked (blocked : Blocked) (screened : Gate.screenQuestion question = some blocked) :
      Course agent occasion question ⟨.questionBlocked, [], agent.model⟩
  | known (command : Command) (result : Result) (collection : String)
      (passed : Gate.screenQuestion question = none)
      (found : agent.knownCommand? question = some command)
      (ran : agent.store.run command = .ok result) :
      Course agent occasion question
        ⟨.answered (rendered result question collection), [command], agent.model⟩
  | unembedded (fault : Embedding.Fault) (passed : Gate.screenQuestion question = none)
      (unsettled : agent.Unsettled question) (failed : agent.embedder.embed question = .error fault) :
      Course agent occasion question
        ⟨.embeddingFailed fault, (agent.knownCommand? question).toList, agent.model⟩
  | irrelevant (vector : Vector32) (passed : Gate.screenQuestion question = none)
      (unsettled : agent.Unsettled question) (embedded : agent.embedder.embed question = .ok vector)
      (foreign : Context.build agent.contextSource vector = .irrelevant) :
      Course agent occasion question
        ⟨.notRelated, (agent.knownCommand? question).toList, agent.model⟩
  | incomplete (text : String) (fault : Completion.Fault) (model : Model)
      (passed : Gate.screenQuestion question = none) (unsettled : agent.Unsettled question)
      (concerns : agent.Concerns question text)
      (failed : agent.model.complete (agent.promptFor occasion.files question text) =
        (.error fault, model)) :
      Course agent occasion question
        ⟨.completionFailed fault, (agent.knownCommand? question).toList, model⟩
  | refused (text code : String) (model : Model) (reply : Reply)
      (passed : Gate.screenQuestion question = none) (unsettled : agent.Unsettled question)
      (concerns : agent.Concerns question text)
      (completed : agent.model.complete (agent.promptFor occasion.files question text) =
        (.ok code, model))
      (refused : agent.accepted occasion.now code = .error reply) :
      Course agent occasion question ⟨reply, (agent.knownCommand? question).toList, model⟩
  | generated (text code : String) (model : Model) (query : Query) (reply : Reply)
      (log : List Command)
      (passed : Gate.screenQuestion question = none) (unsettled : agent.Unsettled question)
      (concerns : agent.Concerns question text)
      (completed : agent.model.complete (agent.promptFor occasion.files question text) =
        (.ok code, model))
      (admitted : agent.Admits occasion.now code query)
      (ran : agent.executed (agent.knownCommand? question).toList question code query =
        (reply, log)) :
      Course agent occasion question ⟨reply, log, model⟩

theorem generated_course {agent : Agent} {occasion : Occasion} {question : String}
    (passed : Gate.screenQuestion question = none) (unsettled : agent.Unsettled question) :
    Course agent occasion question
      (agent.generated occasion (agent.knownCommand? question).toList question) := by
  unfold generated
  cases embedded : agent.embedder.embed question with
  | error fault => exact .unembedded fault passed unsettled embedded
  | ok vector =>
    dsimp only
    cases built : Context.build agent.contextSource vector with
    | irrelevant => exact .irrelevant vector passed unsettled embedded built
    | relevant text names =>
      have concerns : agent.Concerns question text := ⟨vector, names, embedded, built⟩
      dsimp only
      rcases completed : agent.model.complete (Prompt.forQuestion occasion.files
        agent.settings.promptDirectory text question) with ⟨fault | code, model⟩
      · exact .incomplete text fault model passed unsettled concerns completed
      · dsimp only [finished]
        cases judged : agent.accepted occasion.now code with
        | error reply =>
          exact .refused text code model reply passed unsettled concerns completed judged
        | ok query =>
          exact .generated text code model query _ _ passed unsettled concerns completed
            (accepted_ok.1 judged) rfl

theorem answered_course {agent : Agent} {occasion : Occasion} {question : String}
    (passed : Gate.screenQuestion question = none) :
    Course agent occasion question (agent.answered occasion [] question) := by
  unfold answered
  cases canned : Canned.query? question agent.index agent.limit with
  | none =>
    have unknown : agent.knownCommand? question = none := by simp [knownCommand?, canned]
    have course : Course agent occasion question _ :=
      generated_course passed (show agent.Unsettled question by simp [Unsettled, unknown])
    simpa [unknown] using course
  | some query =>
    have known : agent.knownCommand? question =
        some (.aggregate query.collection query.pipeline agent.limit) := by
      simp [knownCommand?, canned]
    dsimp only [Store.send]
    cases ran : agent.store.run (.aggregate query.collection query.pipeline agent.limit) with
    | ok result => exact .known _ result _ passed known ran
    | error fault =>
      have unserved : agent.Unsettled question := by
        simp [Unsettled, known, ← Store.run_ok, ran]
      have course : Course agent occasion question _ := generated_course passed unserved
      simpa [known] using course

/-- A turn takes one of these ways with the trimmed question. -/
theorem ask_course (agent : Agent) (occasion : Occasion) (text : String) :
    Course agent occasion (Text.trimmed text) (agent.ask occasion [] text) := by
  unfold ask
  dsimp only
  split
  next blocked screened => exact .blocked blocked screened
  next passed => exact answered_course passed

section Clerk

def pendingText : String := "Pending orders with customer names"

def pendingCode : String := "db.customers.find(\x7bstatus: \"pending\"\x7d)"

/-- An agent with orders that cannot be read, whose model looks among the customers. -/
def clerk : Agent :=
  let entry : Index.Entry := ⟨"", [1], [], .empty, 0, []⟩
  { settings := {}
    store := Memory.store (Memory.withFailure .empty "orders" "locked")
    embedder := ⟨"none", fun _ => .ok [1]⟩
    model := .scripted [pendingCode] 0
    index := .ofList [("orders", entry), ("customers", entry)] }

def pendingJoin : Command :=
  .aggregate "orders" (Canned.joinPipeline [("status", .text "pending")] 10) 10

def pendingQuery : Query := ⟨"customers", .find [("status", .text "pending")]⟩

def pendingFind : Command := .find "customers" [("status", .text "pending")] 10

theorem pending_passes : Gate.screenQuestion pendingText = none := by decide +kernel

theorem clerk_known : clerk.knownCommand? pendingText = some pendingJoin := by rfl

theorem clerk_unsettled : clerk.Unsettled pendingText := by
  intro command known
  cases clerk_known.symm.trans known
  rw [← Store.run_ok]
  rintro ⟨result, ran⟩
  cases ran

theorem clerk_concerns : ∃ text, clerk.Concerns pendingText text := by
  have ranks : Context.candidates clerk.contextSource [1] =
      ["customers", "orders"].map fun name => ⟨name, Vector32.cosine [1] [1]⟩ :=
    Context.candidates_eq (Nat.le_succ 2) (.refl _) (by decide +kernel)
  have relevant : clerk.contextSource.ranking.minTopScore ≤ Vector32.cosine [1] [1] := by
    decide +kernel
  exact ⟨_, [1], _, rfl, (Context.build_ranked ranks).trans (if_pos relevant)⟩

theorem clerk_admits : clerk.Admits 0 pendingCode pendingQuery :=
  ⟨by decide +kernel, by decide +kernel, by cbv, by rfl, by rfl⟩

end Clerk

end Inquiry.Agent
