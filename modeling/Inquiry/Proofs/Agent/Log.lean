import Inquiry.Agent.Session
import Inquiry.Proofs.Attempt

/-!
A question's commands stand in a log in the order in which they run, those that fail as well. A turn
only adds to the log, and whatever the log holds, the turn is the same and adds the same.
-/
namespace Inquiry

inductive Query.Sends (query : Query) (limit : Nat) : Command → Prop
  | find {filter : Document} (finds : query.operation = .find filter) :
      Sends query limit (.find query.collection filter limit)
  | count {filter : Document} (counts : query.operation = .count filter) :
      Sends query limit (.count query.collection filter)
  | aggregate {pipeline : List Document} (aggregates : query.operation = .aggregate pipeline) :
      Sends query limit (.aggregate query.collection pipeline limit)

namespace Store

inductive Serves (store : Store) : Command → Prop
  | find {collection : String} {filter : Document} {limit : Nat} {documents : List Document}
      (found : store.find collection filter limit = .ok documents) :
      Serves store (.find collection filter limit)
  | count {collection : String} {filter : Document} {count : Nat}
      (counted : store.count collection filter = .ok count) :
      Serves store (.count collection filter)
  | aggregate {collection : String} {pipeline : List Document} {limit : Nat}
      {documents : List Document}
      (found : store.aggregate collection pipeline limit = .ok documents) :
      Serves store (.aggregate collection pipeline limit)

theorem sends_iff {query : Query} {limit : Nat} {command : Command} :
    query.Sends limit command ↔ command = commandOf query limit := by
  unfold commandOf
  constructor
  · rintro (finds | counts | aggregates)
    · rw [finds]
    · rw [counts]
    · rw [aggregates]
  · rintro rfl
    split
    next finds => exact .find finds
    next counts => exact .count counts
    next aggregates => exact .aggregate aggregates

theorem run_ok {store : Store} {command : Command} :
    (∃ result, store.run command = .ok result) ↔ store.Serves command := by
  constructor
  · rintro ⟨result, ran⟩
    cases command with
    | find collection filter limit =>
      obtain ⟨named, ran, -⟩ := map_ok ran
      obtain ⟨documents, found, -⟩ := map_ok ran
      exact .find found
    | count collection filter =>
      obtain ⟨count, counted, -⟩ := map_ok ran
      exact .count counted
    | aggregate collection pipeline limit =>
      obtain ⟨named, ran, -⟩ := map_ok ran
      obtain ⟨documents, found, -⟩ := map_ok ran
      exact .aggregate found
  · rintro (found | counted | found)
    · exact ⟨_, by rw [run, findDocuments, found]; rfl⟩
    · exact ⟨_, by rw [run, counted]; rfl⟩
    · exact ⟨_, by rw [run, aggregateDocuments, found]; rfl⟩

end Store

/-- The turn where the log held these commands before. -/
def Turn.onto (log : List Command) (turn : Turn) : Turn := { turn with log := log ++ turn.log }

namespace Agent

variable (agent : Agent) (log sent : List Command) (occasion : Occasion) (question : String)

section Executed

variable (code : String) (query : Query)

theorem executed_log : (agent.executed log question code query).2 =
    log ++ [Store.commandOf query agent.limit] := by
  unfold executed Store.send
  cases agent.store.run (Store.commandOf query agent.limit) <;> rfl

theorem executed_reply : (agent.executed (log ++ sent) question code query).1 =
    (agent.executed sent question code query).1 := by
  unfold executed Store.send
  cases agent.store.run (Store.commandOf query agent.limit) <;> rfl

theorem executed_answered : (agent.executed log question code query).1.status = .answered ↔
    agent.store.Serves (Store.commandOf query agent.limit) := by
  rw [← Store.run_ok]
  unfold executed Store.send
  cases agent.store.run (Store.commandOf query agent.limit) <;> simp [Reply.status]

end Executed

theorem finished_onto (now : Int) (model : Model) (code : String) :
    agent.finished now (log ++ sent) question model code =
      (agent.finished now sent question model code).onto log := by
  unfold finished
  cases agent.accepted now code with
  | error reply => rfl
  | ok query =>
    simp only [Turn.onto, executed_reply, executed_log, List.append_assoc]

theorem generated_onto : agent.generated occasion (log ++ sent) question =
    (agent.generated occasion sent question).onto log := by
  unfold generated
  cases agent.embedder.embed question with
  | error fault => rfl
  | ok vector =>
    dsimp only
    cases Context.build agent.contextSource vector with
    | irrelevant => rfl
    | relevant text names =>
      dsimp only
      rcases agent.model.complete (Prompt.forQuestion occasion.files
        agent.settings.promptDirectory text question) with ⟨fault | code, model⟩
      · rfl
      · exact agent.finished_onto log sent question occasion.now model code

theorem answered_onto : agent.answered occasion (log ++ sent) question =
    (agent.answered occasion sent question).onto log := by
  unfold answered
  cases Canned.query? question agent.index agent.limit with
  | none => exact agent.generated_onto log sent occasion question
  | some canned =>
    dsimp only [Store.send]
    rw [List.append_assoc]
    cases agent.store.run (.aggregate canned.collection canned.pipeline agent.limit) with
    | ok result => rfl
    | error fault => exact agent.generated_onto log _ occasion question

theorem ask_onto (text : String) : agent.ask occasion log text =
    (agent.ask occasion [] text).onto log := by
  unfold ask
  dsimp only
  split
  · simp [Turn.onto]
  · rw [← answered_onto, List.append_nil]

end Agent
end Inquiry
