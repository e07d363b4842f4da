import Inquiry.Proofs.Agent.Account
import Inquiry.Proofs.Gate.Operator

/-!
Whole runs of a session only read. Questions and surveys come in any order, and between them the
database, the model and the files may become any others.
-/
namespace Inquiry

namespace Command

def collection : Command → String
  | find collection .. | count collection _ | aggregate collection .. => collection

def documents : Command → List Document
  | find _ filter _ | count _ filter => [filter]
  | aggregate _ pipeline _ => pipeline

def Reads (index : Index) (command : Command) : Prop :=
  index.contains command.collection = true ∧ ∀ document ∈ command.documents, document.ReadOnly

end Command

namespace Session

inductive Event where
  | ask (now : Int) (text : String)
  | reindex (now : Int)
  | change (store : Store) (model : Model) (files : Files)

inductive Sending where
  | question (index : Index) (commands : List Command)
  | survey (commands : List Command)

def Sending.commands : Sending → List Command
  | question _ commands | survey commands => commands

def after (session : Session) : Event → Session
  | .ask now text => (session.ask now text).2
  | .reindex now => (session.reindex now).2
  | .change store model files =>
    { session with agent := { session.agent with store, model }, files }

def sent (session : Session) : Event → List Sending
  | .ask now text =>
    [.question session.agent.index (session.agent.ask ⟨session.files, now⟩ [] text).log]
  | .reindex _ => [.survey session.agent.store.survey.commands]
  | .change .. => []

def run (session : Session) (events : List Event) : Session := events.foldl after session

def sendings (session : Session) : List Event → List Sending
  | [] => []
  | event :: rest => session.sent event ++ (session.after event).sendings rest

end Session

namespace Agent

theorem statusFilter_readOnly (question : String) :
    (Canned.statusFilter question).ReadOnly := by
  rw [← Gate.screenDocument_none]
  unfold Canned.statusFilter
  split
  · rfl
  · rfl

theorem joinPipeline_readOnly (question : String) (limit : Nat) :
    ∀ document ∈ Canned.joinPipeline (Canned.statusFilter question) limit, document.ReadOnly := by
  have harmless := statusFilter_readOnly question
  rw [← Gate.screenDocument_none, Gate.screenDocument] at harmless
  intro document member
  rw [← Gate.screenDocument_none, Gate.screenDocument]
  simp only [Canned.joinPipeline, List.mem_cons, List.not_mem_nil, or_false] at member
  rcases member with rfl | rfl | rfl | rfl | rfl
  · have matching : Gate.screenValue (.document (Canned.statusFilter question)) = none := by
      rw [Gate.screenValue, harmless]
    rw [Gate.screenFields, matching]
    rfl
  all_goals rfl

theorem knownCommand_reads {agent : Agent} {question : String} {command : Command}
    (known : command ∈ agent.knownCommand? question) : command.Reads agent.index := by
  obtain ⟨canned, found, rfl⟩ := Option.map_eq_some_iff.1 (Option.mem_def.1 known)
  unfold Canned.query? at found
  dsimp only at found
  split at found
  next asked =>
    cases found
    simp only [Bool.and_eq_true] at asked
    exact ⟨asked.1.2, joinPipeline_readOnly _ _⟩
  next => cases found

theorem admitted_reads {agent : Agent} {now : Int} {code : String} {query : Query}
    (admitted : agent.Admits now code query) (limit : Nat) :
    (Store.commandOf query limit).Reads agent.index := by
  obtain ⟨_, _, _, harmless, indexed⟩ := admitted
  have readOnly := Gate.screenQuery_none.1 harmless
  unfold Store.commandOf
  cases operation : query.operation with
  | find filter | count filter | aggregate pipeline =>
    rw [operation] at readOnly
    exact ⟨indexed, readOnly⟩

/-- Whatever the question and the model, a turn only reads. -/
theorem ask_reads (agent : Agent) (occasion : Occasion) (text : String) :
    ∀ command ∈ (agent.ask occasion [] text).log, command.Reads agent.index := by
  have course := ask_course agent occasion text
  generalize agent.ask occasion [] text = turn at course ⊢
  generalize Text.trimmed text = question at course
  have tried : ∀ command ∈ (agent.knownCommand? question).toList, command.Reads agent.index := by
    intro command member
    exact knownCommand_reads (Option.mem_toList.1 member)
  cases course with
  | blocked => simp
  | known command result collection passed found ran =>
    intro other member
    rw [List.mem_singleton.1 member]
    exact knownCommand_reads found
  | unembedded | irrelevant | incomplete | refused =>
    dsimp only
    exact tried
  | generated text code model query reply log passed unsettled concerns completed admitted ran =>
    have logged := agent.executed_log (agent.knownCommand? question).toList question code query
    rw [ran] at logged
    dsimp only at logged ⊢
    rw [logged]
    intro command member
    rcases List.mem_append.1 member with before | last
    · exact tried command before
    · rw [List.mem_singleton.1 last]
      exact admitted_reads admitted _

end Agent

namespace Session

/-- A step adds to the record exactly what it sends. -/
theorem after_executed (session : Session) (event : Event) :
    (session.after event).executed =
      session.executed ++ (session.sent event).flatMap Sending.commands := by
  cases event with
  | ask now text =>
    rw [after, ask, session.agent.ask_onto session.executed]
    simp [sent, Turn.onto, Sending.commands]
  | change store model files => simp [after, sent]
  | reindex now =>
    have surveyed : (indexing session.agent.settings session.agent.store session.agent.embedder
        ⟨session.files, now⟩ true).commands = session.agent.store.survey.commands := by
      unfold indexing
      split <;> rfl
    simp only [after, sent, reindex, Sending.commands, List.flatMap_singleton, ← surveyed]
    split <;> rfl

theorem run_executed (session : Session) (events : List Event) :
    (session.run events).executed =
      session.executed ++ (session.sendings events).flatMap Sending.commands := by
  induction events generalizing session with
  | nil => simp [run, sendings]
  | cons event rest ih =>
    have tail := ih (session.after event)
    rw [sendings, List.flatMap_append, ← List.append_assoc, ← after_executed]
    exact tail

theorem sent_reads (session : Session) (event : Event) (index : Index) (commands : List Command)
    (member : .question index commands ∈ session.sent event) :
    ∀ command ∈ commands, command.Reads index := by
  cases event with
  | ask now text =>
    cases List.mem_singleton.1 member
    exact session.agent.ask_reads _ _
  | reindex now => cases List.mem_singleton.1 member
  | change store model files => cases member

/-- Every command that a question sends in a run asks for a collection in the index of that moment
and holds no write operator; the record of the run has these commands and those of the surveys, in
the order of the calls. -/
theorem run_reads (session : Session) (events : List Event) :
    (session.run events).executed =
        session.executed ++ (session.sendings events).flatMap Sending.commands ∧
      ∀ index commands, .question index commands ∈ session.sendings events →
        ∀ command ∈ commands, command.Reads index := by
  refine ⟨session.run_executed events, ?_⟩
  induction events generalizing session with
  | nil => intro index commands member; cases member
  | cons event rest ih =>
    intro index commands member
    rcases List.mem_append.1 member with here | there
    · exact session.sent_reads event index commands here
    · exact ih (session.after event) index commands there

theorem run_reads_pending :
    let session : Session := ⟨Agent.clerk, [], .empty⟩
    (session.run [.ask 0 Agent.pendingText, .reindex 1]).executed =
        [Agent.pendingJoin, Agent.pendingFind] ∧
      Agent.pendingJoin.Reads session.agent.index ∧ Agent.pendingFind.Reads session.agent.index := by
  intro session
  obtain ⟨recorded, reads⟩ := run_reads session [.ask 0 Agent.pendingText, .reindex 1]
  have sends : session.sendings [.ask 0 Agent.pendingText, .reindex 1] =
      [.question session.agent.index (Agent.clerk.ask ⟨.empty, 0⟩ [] Agent.pendingText).log,
        .survey []] := rfl
  rw [Agent.clerk_log] at sends
  rw [sends] at recorded reads
  have each := reads _ _ List.mem_cons_self
  exact ⟨recorded, each _ (by simp), each _ (by simp)⟩

end Session
end Inquiry
