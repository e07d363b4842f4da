import Inquiry.Proofs.Agent.Course

/-! What one question costs: the commands it sends, and the completions it asks of a script. -/
namespace Inquiry.Agent

def Generates (agent : Agent) (occasion : Occasion) (question : String) (query : Query) : Prop :=
  ∃ text code model, agent.Concerns question text ∧
    agent.model.complete (agent.promptFor occasion.files question text) = (.ok code, model) ∧
    agent.Admits occasion.now code query

structure Account (agent : Agent) (occasion : Occasion) (question : String) (reply : Reply)
    (known generated : Option Command) (completions : Nat) : Prop where
  blocked : Gate.screenQuestion question ≠ none →
    reply.status = .blocked ∧ known = none ∧ generated = none ∧ completions = 0
  tried : Gate.screenQuestion question = none → known = agent.knownCommand? question
  settled : Gate.screenQuestion question = none → ¬ agent.Unsettled question →
    reply.status = .answered ∧ generated = none ∧ completions = 0
  bounded : completions ≤ 1
  completes : completions = 1 ↔
    Gate.screenQuestion question = none ∧ agent.Unsettled question ∧
      ∃ text, agent.Concerns question text
  generates : ∀ command, generated = some command ↔
    completions = 1 ∧ ∃ query, agent.Generates occasion question query ∧
      query.Sends agent.limit command
  answers : reply.status = .answered ↔
    ∃ command, (known.toList ++ generated.toList).getLast? = some command ∧
      agent.store.Serves command

variable {agent : Agent} {occasion : Occasion} {question : String}

/-- A question has one context at most. -/
theorem Concerns.unique {text other : String} (concerns : agent.Concerns question text)
    (again : agent.Concerns question other) : text = other := by
  obtain ⟨vector, names, embedded, built⟩ := concerns
  obtain ⟨second, others, embeddedAgain, builtAgain⟩ := again
  have same : vector = second := Except.ok.inj (embedded.symm.trans embeddedAgain)
  subst same
  exact (Context.relevant.inj (built.symm.trans builtAgain)).1

theorem Concerns.generates {text code : String} {model : Model} {query : Query}
    (concerns : agent.Concerns question text)
    (completed : agent.model.complete (agent.promptFor occasion.files question text) =
      (.ok code, model)) :
    agent.Generates occasion question query ↔ agent.Admits occasion.now code query := by
  constructor
  · rintro ⟨other, written, next, again, replied, admitted⟩
    rw [← concerns.unique again, completed] at replied
    cases replied
    exact admitted
  · exact fun admitted => ⟨text, code, model, concerns, completed, admitted⟩

theorem Admits.unique {now : Int} {code : String} {query other : Query}
    (admitted : agent.Admits now code query) (again : agent.Admits now code other) :
    query = other :=
  Except.ok.inj (admitted.2.2.1.symm.trans again.2.2.1)

/-- Where the model is not asked, what has been tried before has given no result. -/
theorem Unsettled.last (unsettled : agent.Unsettled question) :
    ¬ ∃ command,
      ((agent.knownCommand? question).toList ++ (none : Option Command).toList).getLast? =
          some command ∧
        agent.store.Serves command := by
  rintro ⟨command, last, serves⟩
  refine unsettled command ?_ serves
  cases known : agent.knownCommand? question with
  | none => simp [known] at last
  | some tried => simpa [known] using last

/-- An account without a completion. -/
theorem account_uncompleted {reply : Reply} (passed : Gate.screenQuestion question = none)
    (unsettled : agent.Unsettled question) (foreign : ∀ text, ¬ agent.Concerns question text)
    (unanswered : reply.status ≠ .answered) :
    Account agent occasion question reply (agent.knownCommand? question) none 0 where
  blocked screened := absurd passed screened
  tried _ := rfl
  settled _ contrary := absurd unsettled contrary
  bounded := Nat.zero_le 1
  completes := by
    refine iff_of_false (by decide) ?_
    rintro ⟨_, _, text, concerns⟩
    exact foreign text concerns
  generates command := by simp
  answers := iff_of_false unanswered unsettled.last

/-- An account with a completion that some gate holds back. -/
theorem account_refused {text code : String} {model : Model} {reply : Reply}
    (passed : Gate.screenQuestion question = none) (unsettled : agent.Unsettled question)
    (concerns : agent.Concerns question text)
    (completed : agent.model.complete (agent.promptFor occasion.files question text) =
      (.ok code, model))
    (refused : agent.accepted occasion.now code = .error reply) :
    Account agent occasion question reply (agent.knownCommand? question) none 1 where
  blocked screened := absurd passed screened
  tried _ := rfl
  settled _ contrary := absurd unsettled contrary
  bounded := Nat.le_refl 1
  completes := iff_of_true rfl ⟨passed, unsettled, text, concerns⟩
  generates command := by
    refine iff_of_false (by simp) ?_
    rintro ⟨_, query, generates, _⟩
    have judged := accepted_ok.2 ((concerns.generates completed).1 generates)
    rw [refused] at judged
    cases judged
  answers := iff_of_false (accepted_error refused) unsettled.last

/-- An account with a completion that every gate lets through. -/
theorem account_generated {text code : String} {model : Model} {query : Query} {reply : Reply}
    (passed : Gate.screenQuestion question = none) (unsettled : agent.Unsettled question)
    (concerns : agent.Concerns question text)
    (completed : agent.model.complete (agent.promptFor occasion.files question text) =
      (.ok code, model))
    (admitted : agent.Admits occasion.now code query)
    (answers : reply.status = .answered ↔
      agent.store.Serves (Store.commandOf query agent.limit)) :
    Account agent occasion question reply (agent.knownCommand? question)
      (some (Store.commandOf query agent.limit)) 1 where
  blocked screened := absurd passed screened
  tried _ := rfl
  settled _ contrary := absurd unsettled contrary
  bounded := Nat.le_refl 1
  completes := iff_of_true rfl ⟨passed, unsettled, text, concerns⟩
  generates command := by
    constructor
    · rintro ⟨⟩
      exact ⟨rfl, query, (concerns.generates completed).2 admitted, Store.sends_iff.2 rfl⟩
    · rintro ⟨_, other, generates, sends⟩
      rw [Store.sends_iff.1 sends, admitted.unique ((concerns.generates completed).1 generates)]
  answers := by
    rw [answers]
    constructor
    · exact fun serves => ⟨_, by simp, serves⟩
    · rintro ⟨command, last, serves⟩
      have same : Store.commandOf query agent.limit = command := by simpa using last
      exact same ▸ serves

theorem account_blocked (screened : Gate.screenQuestion question ≠ none) :
    Account agent occasion question .questionBlocked none none 0 where
  blocked _ := ⟨rfl, rfl, rfl, rfl⟩
  tried passed := absurd passed screened
  settled passed _ := absurd passed screened
  bounded := Nat.zero_le 1
  completes := iff_of_false (by decide) fun ⟨passed, _⟩ => screened passed
  generates command := by simp
  answers := by simp [Reply.status]

theorem account_known {command : Command} {text : String}
    (passed : Gate.screenQuestion question = none)
    (found : agent.knownCommand? question = some command)
    (serves : agent.store.Serves command) :
    Account agent occasion question (.answered text) (some command) none 0 where
  blocked screened := absurd passed screened
  tried _ := found.symm
  settled _ _ := ⟨rfl, rfl, rfl⟩
  bounded := Nat.zero_le 1
  completes := iff_of_false (by decide) fun ⟨_, unsettled, _⟩ => unsettled command found serves
  generates other := by simp
  answers := iff_of_true rfl ⟨command, rfl, serves⟩

/-- A script always has a reply, and counts that it was asked. -/
theorem scripted_complete (replies : List String) (calls : Nat) (prompt : Prompt) :
    ∃ code rest, (Model.scripted replies calls).complete prompt =
      (.ok code, .scripted rest (calls + 1)) := by
  match replies with
  | [] => exact ⟨_, _, rfl⟩
  | [reply] => exact ⟨_, _, rfl⟩
  | reply :: second :: more => exact ⟨_, _, rfl⟩

theorem scripted_calls {replies : List String} {calls : Nat} {prompt : Prompt} {model : Model}
    {outcome : Except Completion.Fault String}
    (completed : (Model.scripted replies calls).complete prompt = (outcome, model)) :
    (∃ code, outcome = .ok code) ∧ model.calls = calls + 1 := by
  obtain ⟨code, rest, replied⟩ := scripted_complete replies calls prompt
  cases replied.symm.trans completed
  exact ⟨⟨code, rfl⟩, rfl⟩

/-- Every way of a question keeps the account. -/
theorem course_account {turn : Turn} {replies : List String} {calls : Nat}
    (script : agent.model = .scripted replies calls) (course : Course agent occasion question turn) :
    ∃ known generated completions, turn.log = known.toList ++ generated.toList ∧
      turn.model.calls = calls + completions ∧
      Account agent occasion question turn.reply known generated completions := by
  have calls_unchanged : agent.model.calls = calls + 0 := by rw [script]; rfl
  cases course with
  | blocked blocked screened =>
    exact ⟨none, none, 0, rfl, calls_unchanged, account_blocked (by simp [screened])⟩
  | known command result collection passed found ran =>
    exact ⟨some command, none, 0, rfl, calls_unchanged,
      account_known passed found (Store.run_ok.1 ⟨result, ran⟩)⟩
  | unembedded fault passed unsettled failed =>
    refine ⟨_, none, 0, by simp, calls_unchanged,
      account_uncompleted passed unsettled ?_ (by simp [Reply.status])⟩
    rintro text ⟨vector, names, embedded, _⟩
    cases failed.symm.trans embedded
  | irrelevant vector passed unsettled embedded foreign =>
    refine ⟨_, none, 0, by simp, calls_unchanged,
      account_uncompleted passed unsettled ?_ (by simp [Reply.status])⟩
    rintro text ⟨other, names, again, built⟩
    cases embedded.symm.trans again
    cases foreign.symm.trans built
  | incomplete text fault model passed unsettled concerns failed =>
    rw [script] at failed
    obtain ⟨⟨code, replied⟩, _⟩ := scripted_calls failed
    cases replied
  | refused text code model reply passed unsettled concerns completed refused =>
    have counted := completed
    rw [script] at counted
    exact ⟨_, none, 1, by simp, (scripted_calls counted).2,
      account_refused passed unsettled concerns completed refused⟩
  | generated text code model query reply log passed unsettled concerns completed admitted ran =>
    have counted := completed
    rw [script] at counted
    have logged := agent.executed_log (agent.knownCommand? question).toList question code query
    have answers := agent.executed_answered (agent.knownCommand? question).toList question code query
    rw [ran] at logged answers
    exact ⟨_, some _, 1, logged, (scripted_calls counted).2,
      account_generated passed unsettled concerns completed admitted answers⟩

/-- The account of the clerk: the known command fails, and a query of the model is sent after it. -/
theorem account_pending {reply : Reply} {known generated : Option Command} {completions : Nat}
    (account : Account clerk ⟨.empty, 0⟩ pendingText reply known generated completions) :
    known = some pendingJoin ∧ generated = some pendingFind ∧ completions = 1 ∧
      reply.status = .answered := by
  have tried : known = some pendingJoin := account.tried pending_passes
  have once : completions = 1 :=
    account.completes.2 ⟨pending_passes, clerk_unsettled, clerk_concerns⟩
  obtain ⟨text, concerns⟩ := clerk_concerns
  have last : generated = some pendingFind :=
    (account.generates _).2 ⟨once, pendingQuery, ⟨text, _, _, concerns, rfl, clerk_admits⟩, .find rfl⟩
  subst tried last
  exact ⟨rfl, rfl, once, account.answers.2 ⟨pendingFind, rfl, .find rfl⟩⟩

theorem clerk_log :
    (clerk.ask ⟨.empty, 0⟩ [] pendingText).log = [pendingJoin, pendingFind] := by
  obtain ⟨known, generated, completions, logged, _, account⟩ :=
    @course_account clerk ⟨.empty, 0⟩ pendingText _ _ _ rfl (ask_course clerk ⟨.empty, 0⟩ pendingText)
  obtain ⟨rfl, rfl, _⟩ := account_pending account
  exact logged

/-- What a question adds to the record of its session, and to the count of completions of a scripted
model. -/
theorem ask_account (settings : Settings) (store : Store) (embedder : Embedder)
    (replies : List String) (calls : Nat) (index : Index) (executed : List Command) (files : Files)
    (now : Int) (text : String) :
    let agent : Agent := ⟨settings, store, embedder, .scripted replies calls, index⟩
    let turn := (Session.mk agent executed files).ask now text
    ∃ known generated completions,
      turn.2.executed = executed ++ (known.toList ++ generated.toList) ∧
      turn.2.agent.model.calls = calls + completions ∧
      Account agent ⟨files, now⟩ (Text.trimmed text) turn.1 known generated completions := by
  intro agent turn
  have course := ask_course agent ⟨files, now⟩ text
  dsimp only [turn, Session.ask]
  rw [ask_onto]
  generalize agent.ask ⟨files, now⟩ [] text = asked at course ⊢
  obtain ⟨known, generated, completions, logged, counted, account⟩ :=
    course_account rfl course
  exact ⟨known, generated, completions, congrArg (executed ++ ·) logged, counted, account⟩

theorem ask_account_pending :
    let turn := (Session.mk clerk [] .empty).ask 0 pendingText
    turn.2.executed = [pendingJoin, pendingFind] ∧ turn.2.agent.model.calls = 1 ∧
      turn.1.status = .answered := by
  obtain ⟨known, generated, completions, logged, counted, account⟩ :=
    ask_account clerk.settings clerk.store clerk.embedder [pendingCode] 0 clerk.index [] .empty 0
      pendingText
  obtain ⟨rfl, rfl, rfl, answered⟩ := account_pending account
  exact ⟨logged, counted, answered⟩

end Inquiry.Agent
