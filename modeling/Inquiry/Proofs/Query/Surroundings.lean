import Inquiry.Proofs.Query.Spaced

/-!
What stands around a query in the text of an answer. Lines without a command before it and lines of
fences anywhere, in the arguments of a call as well, leave what comes of the text as it is, the query
or the fault.
-/
namespace Inquiry.Query

open Inquiry.Text (Spaced IsLineStart)

def readMethods : List String := ["find", "aggregate", "countDocuments", "count"]

def IsCommand (call : List Char) : Prop :=
  ∃ name method, name ≠ [] ∧ (∀ c ∈ name, Text.isWordChar c = true) ∧
    method ∈ readMethods ∧ call = "db.".toList ++ (name ++ '.' :: (method.toList ++ ['(']))

def HasCommand (text : List Char) : Prop := ∃ call, IsCommand call ∧ call <:+: text

def IsFenceLine (line : List Char) : Prop :=
  '\n' ∉ line ∧ ∃ gap rest, Text.IsWhite gap ∧ line = gap ++ "```".toList ++ rest

/-- The second text is the first with lines of fences put between its lines, before or behind them.
A line may be the last of its text and have no break, and a carriage return may be part of its break. -/
inductive Fenced (text : List Char) : List Char → Prop
  | none : Fenced text text
  | between {front line ending back : List Char} (known : Fenced text (front ++ back))
      (start : IsLineStart front) (fence : IsFenceLine line)
      (ended : ending = ['\n'] ∨ ending = [] ∧ back = []) :
      Fenced text (front ++ (line ++ ending ++ back))
  | behind {front feed line ending : List Char} (known : Fenced text front)
      (goesOn : ¬ IsLineStart front) (broken : feed = ['\n'] ∨ feed = ['\r', '\n'])
      (fence : IsFenceLine line) (ended : ending = ['\n'] ∨ ending = []) :
      Fenced text (front ++ feed ++ (line ++ ending))

def prefaced (prose : List String) (text : String) : String :=
  prose.foldr (fun line text => line ++ "\n" ++ text) text

section Commands

variable {text line rest : List Char}

theorem HasCommand.within {part : List Char} (inside : part <:+: text) (has : HasCommand part) :
    HasCommand text := by
  obtain ⟨call, isCommand, within⟩ := has
  exact ⟨call, isCommand, within.trans inside⟩

theorem command_characters {call : List Char} (command : IsCommand call) : '\n' ∉ call := by
  obtain ⟨name, method, -, words, listed, rfl⟩ := command
  have plain : ∀ method ∈ readMethods, '\n' ∉ method.toList := by decide
  have noWord : '\n' ∉ name := fun member => absurd (words _ member) (by decide)
  simpa using ⟨noWord, plain method listed⟩

theorem method_inv {method : Method} (found : method? text = some (method, rest)) :
    ∃ name ∈ readMethods, text = name.toList ++ '(' :: rest := by
  have opened : ∀ named ∈ methods, ∃ name ∈ readMethods,
      named.1.toList = name.toList ++ ['('] := by
    decide +kernel
  obtain ⟨⟨named, kind⟩, member, cut⟩ := List.exists_of_findSome?_eq_some found
  obtain ⟨more, cut, same⟩ := Option.map_eq_some_iff.1 cut
  cases same
  obtain ⟨name, listed, shape⟩ := opened _ member
  refine ⟨name, listed, ?_⟩
  rw [Text.append_of_after cut, shape, List.append_assoc, List.singleton_append]

theorem commandHere_inv {command : Invocation} (found : commandHere? text = some command) :
    ∃ call, IsCommand call ∧ text = call ++ command.rest := by
  simp only [commandHere?, bind, Option.bind_eq_some_iff] at found
  obtain ⟨begun, leads, found⟩ := found
  split at found
  next => cases found
  next named =>
    obtain ⟨dotted, dot, found⟩ := Option.bind_eq_some_iff.1 found
    obtain ⟨⟨kind, rest⟩, called, same⟩ := Option.bind_eq_some_iff.1 found
    cases same
    obtain ⟨method, listed, called⟩ := method_inv called
    have whole := (@List.takeWhile_append_dropWhile _ Text.isWordChar begun).symm
    rw [Text.append_of_after dot, called] at whole
    refine ⟨_, ⟨begun.takeWhile Text.isWordChar, method, ?_, List.all_eq_true.1 List.all_takeWhile,
      listed, rfl⟩, ?_⟩
    · simpa using named
    · rw [Text.append_of_after leads]
      exact (congrArg ("db.".toList ++ ·) whole).trans (by simp)

theorem command_within {front : List Char} (unfound : command? (front ++ text) = none) :
    command? text = none := by
  induction front with
  | nil => exact unfound
  | cons c front ih =>
    rw [List.cons_append, command?] at unfound
    split at unfound
    next => cases unfound
    next => exact ih unfound

/-- A command is found exactly in a text that has one. -/
theorem command_none : command? text = none ↔ ¬ HasCommand text := by
  constructor
  · rintro unfound ⟨call, ⟨name, method, nonempty, words, listed, rfl⟩, front, back, rfl⟩
    have called : ∃ kind, method? (method.toList ++ '(' :: back) = some (kind, back) := by
      simp only [readMethods, List.mem_cons, List.not_mem_nil, or_false] at listed
      rcases listed with rfl | rfl | rfl | rfl <;> exact ⟨_, rfl⟩
    obtain ⟨kind, called⟩ := called
    have found := command_here (commandHere_call nonempty words called)
    rw [List.append_assoc] at unfound
    have missed := command_within unfound
    simp only [List.append_assoc, List.cons_append, List.nil_append] at missed
    rw [found] at missed
    cases missed
  · intro free
    induction text with
    | nil => rfl
    | cons c text ih =>
      have here : commandHere? (c :: text) = none := by
        cases found : commandHere? (c :: text) with
        | none => rfl
        | some command =>
          obtain ⟨call, isCommand, shape⟩ := commandHere_inv found
          exact absurd ⟨call, isCommand, [], command.rest, shape.symm⟩ free
      rw [command?, here]
      exact ih (mt (HasCommand.within (List.suffix_cons c text).isInfix) free)

theorem command_line (free : ¬ HasCommand line) (rest : List Char) :
    command? (line ++ '\n' :: rest) = command? rest := by
  induction line with
  | nil => rfl
  | cons c line ih =>
    have here : commandHere? (c :: line ++ '\n' :: rest) = none := by
      cases found : commandHere? (c :: line ++ '\n' :: rest) with
      | none => rfl
      | some command =>
        obtain ⟨call, isCommand, shape⟩ := commandHere_inv found
        have unbroken := command_characters isCommand
        rcases List.append_eq_append_iff.1 shape with ⟨more, rfl, feeds⟩ | ⟨more, same, -⟩
        · cases more with
          | nil => exact absurd ⟨_, isCommand, [], [], by simp⟩ free
          | cons d more =>
            obtain ⟨rfl, -⟩ := List.cons.inj feeds
            simp at unbroken
        · exact absurd ⟨call, isCommand, [], more, same.symm⟩ free
    rw [List.cons_append] at here ⊢
    rw [command?, here]
    exact ih (mt (HasCommand.within (List.suffix_cons c line).isInfix) free)

end Commands

section Lines

variable {line front back ending : List Char}

theorem spaced_isFence {text other : List Char} (spaced : Spaced text other) :
    isFence other = isFence text := by
  have marks : ∀ c ∈ "```".toList, Text.isWhitespace c = false := Text.all_listed (by decide)
  rw [isFence, isFence, Text.startsWith, Text.startsWith]
  rcases rel_cases (Text.spaced_after marks (Text.spaced_trimStart spaced)) with
    ⟨absent, absentToo⟩ | ⟨rest, more, found, foundToo, -⟩
  · rw [absent, absentToo]
  · rw [found, foundToo]
    rfl

theorem dropReturn_spaced (line : List Char) : Spaced (Text.dropReturn line) line := by
  unfold Text.dropReturn
  split
  next carriage =>
    obtain ⟨front, rfl⟩ := List.getLast?_eq_some_iff.1 carriage
    exact ⟨['\r'], Text.all_listed (by decide), by simp⟩
  next => exact Spaced.refl line

theorem IsFenceLine.isFence (fence : IsFenceLine line) : isFence line = true := by
  obtain ⟨-, gap, rest, white, rfl⟩ := fence
  exact fence_iff.2 ⟨gap, rest, white, by simp⟩

/-- A line of a fence leaves nothing in the code, wherever a line may begin. -/
theorem withoutFences_between (start : IsLineStart front) (fence : IsFenceLine line)
    (ended : ending = ['\n'] ∨ ending = [] ∧ back = []) :
    withoutFences (front ++ (line ++ ending ++ back)) = withoutFences (front ++ back) := by
  have gone : (Text.lines (line ++ ending ++ back)).filter (fun line => !Query.isFence line) =
      (Text.lines back).filter fun line => !Query.isFence line := by
    rcases ended with rfl | ⟨rfl, rfl⟩
    · have closed : Query.isFence (Text.dropReturn line) = true :=
        (spaced_isFence (dropReturn_spaced line)).symm.trans fence.isFence
      rw [List.append_assoc, List.singleton_append, Text.lines_feed fence.1]
      simp [closed]
    · have nonempty : line ≠ [] := by
        rintro rfl
        cases fence.isFence
      rw [List.append_nil, List.append_nil, Text.lines_alone fence.1, if_neg nonempty]
      simp [fence.isFence, Text.lines_alone]
  rw [withoutFences, withoutFences, Text.lines_append start, Text.lines_append start,
    List.filter_append, List.filter_append, gone]

theorem joined_spaced {text other : List Char} (lines : List (List Char)) (spaced : Spaced text other) :
    Spaced (Text.joined ['\n'] (lines ++ [text])) (Text.joined ['\n'] (lines ++ [other])) := by
  induction lines with
  | nil => simpa [Text.joined] using spaced
  | cons line lines ih =>
    obtain ⟨gap, white, same⟩ := ih
    rw [List.cons_append, List.cons_append, Text.joined_cons line (by simp),
      Text.joined_cons line (by simp), same]
    exact ⟨gap, white, by simp⟩

-- A carriage return at the end of the text is read as part of the break that is put behind it.
theorem withoutFences_behind {feed : List Char} (goesOn : ¬ IsLineStart front)
    (broken : feed = ['\n'] ∨ feed = ['\r', '\n']) :
    Spaced (withoutFences (front ++ feed)) (withoutFences front) := by
  obtain ⟨front, last, rfl, start, nonempty, unbroken⟩ := Text.lineStart_last goesOn
  obtain ⟨shown, closed, spaced⟩ : ∃ shown, Text.lines (last ++ feed) = [shown] ∧ Spaced shown last := by
    rcases broken with rfl | rfl
    · exact ⟨_, Text.lines_feed unbroken, dropReturn_spaced last⟩
    · have carried : last ++ ['\r', '\n'] = (last ++ ['\r']) ++ '\n' :: [] := by simp
      refine ⟨last, ?_, Spaced.refl last⟩
      rw [carried, Text.lines_feed (by simpa using unbroken)]
      simp [Text.dropReturn, Text.lines_alone]
  have whole : Text.lines last = [last] := (Text.lines_alone unbroken).trans (if_neg nonempty)
  rw [withoutFences, withoutFences, List.append_assoc, Text.lines_append start, Text.lines_append start,
    closed, whole, List.filter_append, List.filter_append, List.filter_singleton, List.filter_singleton,
    spaced_isFence spaced]
  cases isFence shown with
  | true => exact Spaced.refl _
  | false => exact joined_spaced _ spaced

end Lines

theorem command_joined {prose query : List (List Char)} (free : ∀ line ∈ prose, ¬ HasCommand line) :
    command? (Text.joined ['\n'] (prose ++ query)) = command? (Text.joined ['\n'] query) := by
  induction prose with
  | nil => rfl
  | cons line prose ih =>
    obtain ⟨first, free⟩ := List.forall_mem_cons.1 free
    rw [List.cons_append, ← ih free]
    by_cases empty : prose ++ query = []
    · rw [empty]
      simpa [Text.joined, command?] using command_none.2 first
    · rw [Text.joined_cons line empty, command_line first]

theorem lines_prefaced {prose : List String} (alone : ∀ line ∈ prose, '\n' ∉ line.toList) (text : String) :
    Text.lines (prefaced prose text).toList =
      prose.map (fun line => Text.dropReturn line.toList) ++ Text.lines text.toList := by
  induction prose with
  | nil => rfl
  | cons line prose ih =>
    obtain ⟨first, alone⟩ := List.forall_mem_cons.1 alone
    have shape : (prefaced (line :: prose) text).toList =
        line.toList ++ '\n' :: (prefaced prose text).toList := by
      simp [prefaced]
    rw [shape, Text.lines_feed first, ih alone, List.map_cons, List.cons_append]

theorem ofCode_prefaced (now : Int) {prose : List String} (text : String)
    (plain : ∀ line ∈ prose, '\n' ∉ line.toList ∧ ¬ HasCommand line.toList) :
    ofCode now (withoutFences (prefaced prose text).toList) = ofCode now (withoutFences text.toList) := by
  rw [withoutFences, lines_prefaced fun line member => (plain line member).1, List.filter_append, ofCode,
    command_joined, withoutFences, ofCode]
  intro shown member
  obtain ⟨line, listed, rfl⟩ := List.mem_map.1 (List.mem_filter.1 member).1
  obtain ⟨gap, -, same⟩ := dropReturn_spaced line.toList
  exact mt (HasCommand.within ⟨[], gap, same.symm⟩) (plain line listed).2

theorem ofCode_fenced (now : Int) {text fenced : List Char} (added : Fenced text fenced) :
    ofCode now (withoutFences fenced) = ofCode now (withoutFences text) := by
  induction added with
  | none => rfl
  | between known start fence ended ih => rw [withoutFences_between start fence ended, ih]
  | @behind front feed line ending known goesOn broken fence ended ih =>
    -- the break alone makes the start of a line, where the fence leaves nothing
    have start : IsLineStart (front ++ feed) := by
      rcases broken with rfl | rfl <;> simp [IsLineStart]
    have gone := @withoutFences_between line (front ++ feed) [] ending start fence
      (ended.imp_right (⟨·, rfl⟩))
    rw [List.append_nil, List.append_nil] at gone
    rw [gone, ← spaced_ofCode now (withoutFences_behind goesOn broken), ih]

/-- Neither lines without a command before a text nor fences in it change what comes of the text. -/
theorem ofText_surrounded (now : Int) :
    (∀ prose query, (∀ line ∈ prose, '\n' ∉ line.toList ∧ ¬ HasCommand line.toList) →
      ofText now (prefaced prose query) = ofText now query) ∧
    ∀ text fenced, Fenced text.toList fenced.toList → ofText now fenced = ofText now text := by
  constructor
  · exact fun prose query plain => ofCode_prefaced now query plain
  · exact fun text fenced added => ofCode_fenced now added

section Answer

def pendingText : String := "db.orders.find(\x7b\r\n  status: 'pending'\x7d)"

def pendingFenced : String :=
  "```js\ndb.orders.find(\x7b\r\n ``` \r\n  status: 'pending'\x7d)\r\n```"

theorem pending_fenced : Fenced pendingText.toList pendingFenced.toList := by
  have opening : IsFenceLine "```js".toList := ⟨by decide, [], "js".toList, nofun, rfl⟩
  have inside : IsFenceLine " ``` \r".toList :=
    ⟨by decide, [' '], " \r".toList, Text.all_listed (by decide), rfl⟩
  have closing : IsFenceLine "```".toList := ⟨by decide, [], [], nofun, rfl⟩
  have unfenced : Fenced pendingText.toList ([] ++ pendingText.toList) := .none
  have opened := unfenced.between nofun opening (.inl rfl)
  have cut : [] ++ ("```js".toList ++ ['\n'] ++ pendingText.toList) =
      "```js\ndb.orders.find(\x7b\r".toList ++ ['\n'] ++ "  status: 'pending'\x7d)".toList := by
    decide +kernel
  rw [cut] at opened
  have within := opened.between (Text.lineStart_feed.2 nofun) inside (.inl rfl)
  have whole : pendingFenced.toList = "```js\ndb.orders.find(\x7b\r".toList ++ ['\n'] ++
      (" ``` \r".toList ++ ['\n'] ++ "  status: 'pending'\x7d)".toList) ++ ['\r', '\n'] ++
        ("```".toList ++ []) := by
    decide +kernel
  rw [whole]
  refine .behind within (fun start => ?_) (.inr rfl) closing (.inr rfl)
  have last := start ')' (by simp)
  revert last
  decide

theorem ofText_surrounded_pending :
    ofText 0 (prefaced ["Here db.orders is read:\r", "```js"] pendingText) =
      .ok ⟨"orders", .find [("status", .text "pending")]⟩ ∧
    ofText 0 pendingFenced = ofText 0 pendingText := by
  obtain ⟨behind, fenced⟩ := ofText_surrounded 0
  have read : ofText 0 pendingText = .ok ⟨"orders", .find [("status", .text "pending")]⟩ := by cbv
  refine ⟨(behind _ _ ?_).trans read, fenced _ _ pending_fenced⟩
  simp only [List.forall_mem_cons]
  exact ⟨⟨by decide, command_none.1 (by rfl)⟩, ⟨by decide, command_none.1 (by rfl)⟩,
    List.forall_mem_nil _⟩

end Answer

end Inquiry.Query
