import Inquiry.Agent.Conversation
import Inquiry.Proofs.Agent.Account
import Inquiry.Proofs.Gate.Script
import Inquiry.Store.Memory

/-!
A conversation with a script of at most one reply: every line is answered as if it were the only one,
and after a farewell nothing is heard.
-/
namespace Inquiry.Conversation

def IsSpelling (word text : String) : Prop :=
  List.Forall₂ (fun small c => c = small ∨ c = small.toUpper) word.toList text.toList

def IsFarewell (text : String) : Prop := IsSpelling "exit" text ∨ IsSpelling "quit" text

instance (word text : String) : Decidable (IsSpelling word text) :=
  inferInstanceAs (Decidable (List.Forall₂ (fun small c => c = small ∨ c = Char.toUpper small) _ _))

instance : DecidablePred IsFarewell := fun text =>
  inferInstanceAs (Decidable (IsSpelling "exit" text ∨ IsSpelling "quit" text))

section Farewell

theorem spelling_iff {word text : String} (small : ∀ c ∈ word.toList, c.toLower = c) :
    text.toLower = word ↔ IsSpelling word text := by
  rw [← String.toList_inj, String.toLower, String.toList_map, IsSpelling]
  generalize word.toList = word at small
  generalize text.toList = text
  induction word generalizing text with
  | nil => simp
  | cons letter word ih =>
    cases text with
    | nil => simp
    | cons c text =>
      obtain ⟨first, rest⟩ := List.forall_mem_cons.1 small
      have same := @Gate.toLower_iff letter c
      rw [first] at same
      rw [List.map_cons, List.cons.injEq, List.forall₂_cons, same, ih rest]

theorem isFarewell_iff {text : String} : isFarewell text = true ↔ IsFarewell text := by
  have exit : ∀ c ∈ "exit".toList, c.toLower = c := Text.all_listed (by decide)
  have quit : ∀ c ∈ "quit".toList, c.toLower = c := Text.all_listed (by decide)
  rw [isFarewell, Bool.or_eq_true, decide_eq_true_eq, decide_eq_true_eq, spelling_iff exit,
    spelling_iff quit, IsFarewell]

end Farewell

end Inquiry.Conversation

namespace Inquiry.Agent

def scripted (agent : Agent) (replies : List String) (calls : Nat) : Agent :=
  { agent with model := .scripted replies calls }

/-- How often the script has been asked before shows in the count of its completions alone. -/
def IsSteady (agent : Agent) (replies : List String) (turn : Agent → Turn) : Prop :=
  ∃ reply log completions, ∀ calls, turn (agent.scripted replies calls) =
    ⟨reply, log, .scripted replies (calls + completions)⟩

section Scripted

variable (agent : Agent) (replies : List String) (calls : Nat)

@[simp] theorem scripted_model : (agent.scripted replies calls).model = .scripted replies calls := rfl

@[simp] theorem scripted_settings : (agent.scripted replies calls).settings = agent.settings := rfl

@[simp] theorem scripted_store : (agent.scripted replies calls).store = agent.store := rfl

@[simp] theorem scripted_embedder : (agent.scripted replies calls).embedder = agent.embedder := rfl

@[simp] theorem scripted_index : (agent.scripted replies calls).index = agent.index := rfl

@[simp] theorem scripted_limit : (agent.scripted replies calls).limit = agent.limit := rfl

@[simp] theorem scripted_source : (agent.scripted replies calls).contextSource = agent.contextSource := rfl

/-- A reply of the model is judged and run without the model. -/
@[simp] theorem scripted_finished : (agent.scripted replies calls).finished = agent.finished := rfl

end Scripted

section Turns

variable {replies : List String}

/-- A script of at most one reply stays as it is. -/
theorem complete_few (few : replies.length ≤ 1) (prompt : Prompt) : ∃ code, ∀ calls,
    (Model.scripted replies calls).complete prompt = (.ok code, .scripted replies (calls + 1)) := by
  match replies with
  | [] => exact ⟨_, fun _ => rfl⟩
  | [reply] => exact ⟨_, fun _ => rfl⟩
  | _ :: _ :: _ => exact absurd few (by simp)

theorem finished_model (agent : Agent) (now : Int) (log : List Command) (question code : String) :
    ∃ reply sent, ∀ model,
      agent.finished now log question model code = ⟨reply, sent, model⟩ := by
  unfold finished
  cases agent.accepted now code with
  | error reply => exact ⟨reply, log, fun _ => rfl⟩
  | ok query => exact ⟨_, _, fun _ => rfl⟩

theorem generated_steady (agent : Agent) (few : replies.length ≤ 1) (occasion : Occasion)
    (log : List Command) (question : String) :
    agent.IsSteady replies fun agent => agent.generated occasion log question := by
  cases embedded : agent.embedder.embed question with
  | error fault =>
    refine ⟨.embeddingFailed fault, log, 0, fun calls => ?_⟩
    simp [generated, embedded]
  | ok vector =>
    cases built : Context.build agent.contextSource vector with
    | irrelevant =>
      refine ⟨.notRelated, log, 0, fun calls => ?_⟩
      simp [generated, embedded, built]
    | relevant text names =>
      obtain ⟨code, completed⟩ := complete_few few (agent.promptFor occasion.files question text)
      obtain ⟨reply, sent, ends⟩ := agent.finished_model occasion.now log question code
      refine ⟨reply, sent, 1, fun calls => ?_⟩
      have replied := completed calls
      rw [promptFor] at replied
      simp [generated, embedded, built, replied, ends]

theorem answered_steady (agent : Agent) (few : replies.length ≤ 1) (occasion : Occasion)
    (log : List Command) (question : String) :
    agent.IsSteady replies fun agent => agent.answered occasion log question := by
  cases found : Canned.query? question agent.index agent.limit with
  | none =>
    obtain ⟨reply, sent, completions, same⟩ := agent.generated_steady few occasion log question
    refine ⟨reply, sent, completions, fun calls => ?_⟩
    rw [← same calls]
    unfold answered
    simp [found]
  | some canned =>
    rcases ran : agent.store.send log (.aggregate canned.collection canned.pipeline agent.limit) with
      ⟨fault | result, tried⟩
    · obtain ⟨reply, sent, completions, same⟩ :=
        agent.generated_steady few occasion tried question
      refine ⟨reply, sent, completions, fun calls => ?_⟩
      rw [← same calls]
      unfold answered
      simp [found, ran]
    · refine ⟨.answered (rendered result question canned.collection), tried, 0, fun calls => ?_⟩
      unfold answered
      simp [found, ran]

theorem ask_steady (agent : Agent) (few : replies.length ≤ 1) (occasion : Occasion)
    (log : List Command) (text : String) :
    agent.IsSteady replies fun agent => agent.ask occasion log text := by
  cases screened : Gate.screenQuestion (Text.trimmed text) with
  | some blocked =>
    refine ⟨.questionBlocked, log, 0, fun calls => ?_⟩
    simp [ask, screened]
  | none =>
    obtain ⟨reply, sent, completions, same⟩ :=
      agent.answered_steady few occasion log (Text.trimmed text)
    refine ⟨reply, sent, completions, fun calls => ?_⟩
    rw [← same calls]
    simp [ask, screened]

end Turns

end Inquiry.Agent

namespace Inquiry.Conversation

def turn? (session : Session) (now : Int) (line : String) : Option Turn :=
  if Text.trimmed line = "" then none
  else some (session.agent.ask ⟨session.files, now⟩ [] (Text.trimmed line))

def written (turn : Option Turn) : String := prompt ++ turn.elim "" fun turn => replyText turn.reply

def sent (turn : Option Turn) : List Command := turn.elim [] Turn.log

def completed (calls : Nat) (turn : Option Turn) : Nat := turn.elim 0 fun turn => turn.model.calls - calls

def after (session : Session) (replies : List String) (turns : List (Option Turn)) : Session :=
  let calls := session.agent.model.calls
  { session with
    agent := session.agent.scripted replies (calls + (turns.map (completed calls)).sum)
    executed := session.executed ++ turns.flatMap sent }

section Lines

variable {session : Session} {now : Int} {replies : List String} {calls : Nat}

/-- A question comes to the same at any place of the conversation. -/
theorem ask_after (few : replies.length ≤ 1) (script : session.agent.model = .scripted replies calls)
    (before : List (Option Turn)) (question : String) :
    let turn := session.agent.ask ⟨session.files, now⟩ [] question
    (after session replies before).ask now question =
      (turn.reply, after session replies (before ++ [some turn])) := by
  obtain ⟨reply, log, completions, same⟩ :=
    session.agent.ask_steady few ⟨session.files, now⟩ [] question
  have own : session.agent = session.agent.scripted replies calls := by
    rw [Agent.scripted, ← script]
  have alone := same calls
  have later := same (calls + (before.map (completed calls)).sum)
  rw [← own] at alone
  have count : session.agent.model.calls = calls := by rw [script]; rfl
  rw [Session.ask, Agent.ask_onto _ (after session replies before).executed]
  simp only [after, alone, later, count]
  simp [Turn.onto, Agent.scripted, completed, sent, Model.calls, Nat.add_assoc]

theorem after_blank (before : List (Option Turn)) :
    after session replies (before ++ [none]) = after session replies before := by
  simp [after, completed, sent]

/-- What the lines write before the rest of the input, and where they leave the session. -/
theorem run_append (few : replies.length ≤ 1) (script : session.agent.model = .scripted replies calls)
    {heard : List String} (staying : ∀ line ∈ heard, ¬ IsFarewell (Text.trimmed line))
    (before : List (Option Turn)) (rest : List Input) :
    run (after session replies before) now (heard.map .line ++ rest) =
      let turns := heard.map (turn? session now)
      let final := run (after session replies (before ++ turns)) now rest
      (String.join (turns.map written) ++ final.1, final.2) := by
  induction heard generalizing before with
  | nil => simp
  | cons line heard ih =>
    obtain ⟨stays, others⟩ := List.forall_mem_cons.1 staying
    have next := ih others (before ++ [turn? session now line])
    simp only [List.append_assoc, List.singleton_append] at next
    simp only [List.map_cons, List.cons_append, run]
    by_cases blank : Text.trimmed line = ""
    · have silent : turn? session now line = none := if_pos blank
      rw [silent, after_blank] at next
      simp only [blank, if_true, next, silent]
      simp [written, String.append_assoc]
    · have turned : turn? session now line =
          some (session.agent.ask ⟨session.files, now⟩ [] (Text.trimmed line)) := if_neg blank
      have goesOn : isFarewell (Text.trimmed line) = false := by
        rw [← Bool.not_eq_true, isFarewell_iff]
        exact stays
      have asked := @ask_after session now replies calls few script before (Text.trimmed line)
      rw [turned] at next
      simp only [blank, if_false, goesOn, Bool.false_eq_true, asked, next, turned]
      simp [written, String.append_assoc]

theorem after_nil (script : session.agent.model = .scripted replies calls) :
    after session replies [] = session := by
  have own : session.agent.scripted replies session.agent.model.calls = session.agent := by
    rw [Agent.scripted, script]
    simp only [Model.calls, ← script]
  simp only [after, List.map_nil, List.sum_nil, Nat.add_zero, own, List.flatMap_nil, List.append_nil]

/-- Without a farewell the conversation goes on to the end of the input. -/
theorem run_through (few : replies.length ≤ 1) (script : session.agent.model = .scripted replies calls)
    {heard : List String} (staying : ∀ line ∈ heard, ¬ IsFarewell (Text.trimmed line)) :
    let turns := heard.map (turn? session now)
    run session now (heard.map .line) =
      (String.join (turns.map written) ++ prompt ++ "\n", after session replies turns) := by
  have ran := @run_append session now replies calls few script heard staying [] []
  rw [after_nil script, List.append_nil] at ran
  rw [ran]
  simp [run, String.append_assoc]

/-- A farewell ends the conversation, whatever follows it. -/
theorem run_until (few : replies.length ≤ 1) (script : session.agent.model = .scripted replies calls)
    {heard : List String} (staying : ∀ line ∈ heard, ¬ IsFarewell (Text.trimmed line)) {farewell : String}
    (ends : IsFarewell (Text.trimmed farewell)) (unheard : List Input) :
    let turns := heard.map (turn? session now)
    run session now (heard.map .line ++ .line farewell :: unheard) =
      (String.join (turns.map written) ++ prompt, after session replies turns) := by
  have visible : Text.trimmed farewell ≠ "" := by
    intro blank
    rw [blank] at ends
    rcases ends with spelt | spelt <;> cases spelt
  have ran := @run_append session now replies calls few script heard staying []
    (.line farewell :: unheard)
  rw [after_nil script] at ran
  rw [ran]
  simp [run, visible, isFarewell_iff.2 ends]

end Lines

/-- Whatever has been asked before, the reply to a line is the one that it has on its own, and what
follows a farewell is not heard. -/
theorem run_lines (session : Session) (now : Int) {replies : List String} {calls : Nat}
    (script : session.agent.model = .scripted replies calls) (few : replies.length ≤ 1)
    (lines : List String) :
    let heard := lines.takeWhile fun line => ¬ IsFarewell (Text.trimmed line)
    let turns := heard.map (turn? session now)
    let ending := if ∃ line ∈ lines, IsFarewell (Text.trimmed line) then "" else "\n"
    run session now (lines.map .line) =
      (String.join (turns.map written) ++ prompt ++ ending, after session replies turns) := by
  intro heard turns ending
  cases found : lines.find? fun line => decide (IsFarewell (Text.trimmed line)) with
  | none =>
    have staying : ∀ line ∈ lines, ¬ IsFarewell (Text.trimmed line) := fun line member => by
      simpa using List.find?_eq_none.1 found line member
    have whole : heard = lines := List.takeWhile_eq_self_iff.2 (by simpa using staying)
    have unended : ending = "\n" := if_neg (by simpa using staying)
    simp only [turns, whole, unended]
    exact run_through few script staying
  | some farewell =>
    obtain ⟨ends, front, unheard, rfl, others⟩ := List.find?_eq_some_iff_append.1 found
    have ends : IsFarewell (Text.trimmed farewell) := of_decide_eq_true ends
    have staying : ∀ line ∈ front, ¬ IsFarewell (Text.trimmed line) := fun line member => by
      simpa using others line member
    have cut : heard = front := by
      simp only [heard]
      rw [List.takeWhile_append_of_pos (by simpa using staying),
        List.takeWhile_cons_of_neg (by simpa using ends), List.append_nil]
    have ended : ending = "" := if_pos ⟨farewell, by simp, ends⟩
    simp only [turns, cut, ended, String.append_empty, List.map_append, List.map_cons]
    exact run_until few script staying ends (unheard.map .line)

def idle : Session where
  agent :=
    { settings := {}
      store := Memory.store .empty
      embedder := ⟨"none", fun _ => .error (.request "refused")⟩
      model := .scripted ["NONE"] 0
      index := .empty }
  executed := []
  files := .empty

/-- A question after the farewell gets no reply. -/
theorem run_lines_quit :
    (run idle 0 (["hello", "", "drop it", " Quit ", "hello"].map .line)).1 =
      "> ⚠ ERROR: embedding request failed: refused\n\n> > ❌ Database modification queries are not allowed. You can only view/query data.\n\n> " := by
  have few : (["NONE"] : List String).length ≤ 1 := by decide
  have ran := run_lines idle 0 rfl few ["hello", "", "drop it", " Quit ", "hello"]
  have heard : ["hello", "", "drop it", " Quit ", "hello"].takeWhile
      (fun line => ¬ IsFarewell (Text.trimmed line)) = ["hello", "", "drop it"] := by decide
  have ended : ∃ line ∈ ["hello", "", "drop it", " Quit ", "hello"], IsFarewell (Text.trimmed line) := by
    decide
  have failed : written (turn? idle 0 "hello") = "> ⚠ ERROR: embedding request failed: refused\n\n" := by
    decide
  have blank : written (turn? idle 0 "") = "> " := by decide
  have blocked : written (turn? idle 0 "drop it") =
      "> ❌ Database modification queries are not allowed. You can only view/query data.\n\n" := by decide
  rw [ran, heard, if_pos ended]
  simp only [List.map_cons, List.map_nil, failed, blank, blocked]
  decide +kernel

end Inquiry.Conversation
