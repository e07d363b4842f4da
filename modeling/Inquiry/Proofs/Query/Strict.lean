import Inquiry.Proofs.Query.Search
import Inquiry.Proofs.Text.Cut
import Inquiry.Query.Reading
import Mathlib

/-!
A call whose argument is strict JSON is the query that the argument stands for, whatever the
argument contains: fences, the command and the brackets are found where they stand.
-/
namespace Inquiry.Query

open Json Inquiry.Bracket

section Breaks

variable {limits : Limits} {reader next : Reader} {quote : Quote} {depth : Nat} {value : Json}
  {text rest : List Char} {c : Char}

theorem move_blank {state : State} (move : Move state c next) (blank : Json.isBlank c = true) :
    next = ⟨none, state⟩ := by
  cases move with
  | blank => rfl
  | literal orClose stack begun =>
    rcases blank_iff.1 blank with rfl | rfl | rfl | rfl <;> cases begun
  | _ => cases blank

theorem feed_digit {part further : NumberPart} (feed : c = '\r' ∨ c = '\n') :
    part.next? c ≠ some further := by
  intro continues
  have outside : c.isDigit = false ∧ c ∉ ['+', '-', '.', 'e', 'E'] := by
    rcases feed with rfl | rfl <;> decide
  rcases next?_digit continues with digit | sign
  · rw [outside.1] at digit
    cases digit
  · exact outside.2 sign

theorem feed_textMove {part further : TextPart} {more : List Char} (feed : c = '\r' ∨ c = '\n')
    (move : TextMove part c further) : IsSpoilt (some (.text further more)) := by
  rcases feed with rfl | rfl
  all_goals
    cases move with
    | plain visible => exact absurd visible (by decide)
    | letter short => cases short
    | digit high bytes count read => cases read
    | spoilt => trivial
    | whole high bytes read => cases read
    | firstHalf high bytes half read => cases read

/-- A line break is no part of a literal, and one without its carriage return is as good. -/
theorem break_outside (feed : c = '\r' ∨ c = '\n') (tracks : Tracks reader quote depth)
    (stepped : reader.step limits c = .ok next) (accepts : next.Accepts limits rest value) :
    next.literal = none ∧ reader.step limits '\n' = .ok next := by
  have blank : Json.isBlank c = true ∧ Json.isBlank '\n' = true := by
    rcases feed with rfl | rfl <;> exact ⟨rfl, rfl⟩
  obtain ⟨literal, state⟩ := reader
  cases literal with
  | none =>
    rw [step_blank blank.1] at stepped
    cases stepped
    exact ⟨rfl, step_blank blank.2⟩
  | some literal =>
    cases literal with
    | word value letters =>
      -- A word waits for a letter.
      have sound := tracks.sound _ rfl
      cases step_advance stepped with
      | goesOn state progress =>
        cases progress
        have letter := sound.2 c List.mem_cons_self
        rcases feed with rfl | rfl <;> cases letter
      | ends progress taken =>
        cases progress
        have letter := sound.2 c List.mem_cons_self
        rcases feed with rfl | rfl <;> cases letter
      | endsBefore progress => cases progress
    | number part seen =>
      have same : Literal.step (.number part seen) c = Literal.step (.number part seen) '\n' := by
        rcases feed with rfl | rfl <;> cases part <;> rfl
      have sameStep (left : State) : left.step limits c = left.step limits '\n' := by
        simp only [State.step, blank, if_true]
      have fed : Reader.step limits ⟨some (.number part seen), state⟩ '\n' = .ok next := by
        rw [← stepped]
        simp only [Reader.step, same, sameStep]
      refine ⟨?_, fed⟩
      cases step_advance stepped with
      | goesOn state progress =>
        cases progress with
        | digit seen continues => exact absurd continues (feed_digit feed)
      | ends progress => cases progress
      | endsBefore progress taken move => rw [move_blank move blank.1]
    | text part seen =>
      cases step_advance stepped with
      | goesOn state progress =>
        cases progress with
        | text seen more inside move => exact absurd accepts (spoilt_accepts (feed_textMove feed move))
      | ends progress => cases progress; rcases feed with feed | feed <;> cases feed
      | endsBefore progress => cases progress

theorem accepts_rebroken (tracks : Tracks reader quote depth)
    (accepts : reader.Accepts limits text value) :
    reader.Accepts limits (Text.rebroken text) value := by
  induction text generalizing reader quote depth with
  | nil => exact accepts
  | cons c rest ih =>
    obtain ⟨next, stepped, follows⟩ := Reader.accepts_cons.1 accepts
    have after := ih (tracks.step stepped follows).1 follows
    rw [Text.rebroken]
    split
    next cut =>
      -- The line feed that follows does what both of them did.
      obtain ⟨rfl, fed⟩ := cut
      obtain ⟨outside, same⟩ := break_outside (.inl rfl) tracks stepped follows
      obtain ⟨more, rfl⟩ : ∃ more, rest = '\n' :: more := by
        cases rest with
        | nil => cases fed
        | cons d more => exact ⟨more, by rw [Option.some.inj fed]⟩
      rw [Text.rebroken, if_neg (by simp)] at after ⊢
      obtain ⟨further, again, finished⟩ := Reader.accepts_cons.1 after
      obtain ⟨literal, state⟩ := next
      cases outside
      rw [step_blank rfl] at again
      cases again
      exact Reader.accepts_cons.2 ⟨_, same, finished⟩
    next => exact Reader.accepts_cons.2 ⟨next, stepped, after⟩

theorem read_rebroken (read : Json.read text = .ok value) :
    Json.read (Text.rebroken text) = .ok value :=
  read_ok.2 (accepts_rebroken (outside_tracks rfl) (read_ok.1 read))

end Breaks

/-- On the line of every backtick something visible stands before it. -/
def IsLed (text : List Char) : Prop :=
  ∀ front back, text = front ++ '`' :: back →
    ∃ c ∈ front.reverse.takeWhile (· ≠ '\n'), Text.isWhitespace c = false

section Fences

variable {limits : Limits} {reader : Reader} {quote : Quote} {depth : Nat} {value : Json}
  {text front space rest lead line : List Char} {first : Char} {state : State}

theorem space_backtick (dark : ∀ c ∈ space, Text.isWhitespace c = true) :
    ¬ Reader.Accepts limits ⟨none, state⟩ (space ++ '`' :: rest) value := by
  intro accepts
  induction space with
  | nil =>
    obtain ⟨next, stepped, _⟩ := Reader.accepts_cons.1 accepts
    rcases (step_move stepped).token with blank | token
    · cases blank
    · exact absurd token (by decide)
  | cons c space ih =>
    obtain ⟨next, stepped, follows⟩ := Reader.accepts_cons.1 accepts
    rcases (step_move stepped).token with blank | token
    · rw [step_blank blank] at stepped
      cases stepped
      exact ih (fun d member => dark d (List.mem_cons_of_mem _ member)) follows
    · have visible : ∀ c ∈ tokens, Text.isWhitespace c = false := Text.all_listed (by decide)
      have white := dark c List.mem_cons_self
      rw [visible c token] at white
      cases white

/-- No line of an accepted text begins with a backtick. -/
theorem feed_backtick (tracks : Tracks reader quote depth)
    (dark : ∀ c ∈ space, Text.isWhitespace c = true) :
    ¬ reader.Accepts limits (front ++ '\n' :: (space ++ '`' :: rest)) value := by
  intro accepts
  induction front generalizing reader quote depth with
  | nil =>
    obtain ⟨next, stepped, follows⟩ := Reader.accepts_cons.1 accepts
    obtain ⟨outside, _⟩ := break_outside (.inr rfl) tracks stepped follows
    obtain ⟨literal, state⟩ := next
    cases outside
    exact space_backtick dark follows
  | cons c front ih =>
    obtain ⟨next, stepped, follows⟩ := Reader.accepts_cons.1 accepts
    exact ih (tracks.step stepped follows).1 follows

theorem fence_iff {line : List Char} : isFence line = true ↔
    ∃ gap rest, Text.IsWhite gap ∧ line = gap ++ '`' :: '`' :: '`' :: rest := by
  have begins : isFence line = true ↔ ∃ rest, Text.trimStart line = '`' :: '`' :: '`' :: rest := by
    rw [isFence, Text.startsWith, Option.isSome_iff_exists]
    exact exists_congr fun rest => Text.after_iff
  rw [begins, exists_comm]
  exact exists_congr fun rest => Text.trimStart_iff (by decide)

theorem led_plain (plain : '`' ∉ text) : IsLed text := by
  rintro front back rfl
  exact absurd (by simp) plain

theorem IsLed.append (led : IsLed text) (more : IsLed rest) : IsLed (text ++ rest) := by
  intro front back same
  rcases List.append_eq_append_iff.1 same with ⟨inside, rfl, shape⟩ | ⟨inside, shape, ends⟩
  · obtain ⟨c, member, visible⟩ := more inside back shape
    refine ⟨c, ?_, visible⟩
    rw [List.reverse_append, List.takeWhile_append]
    split
    · exact List.mem_append_left _ ((List.takeWhile_sublist _).subset member)
    · exact member
  · cases inside with
    | nil =>
      obtain ⟨c, member, _⟩ := more [] back ends.symm
      cases member
    | cons c inside =>
      obtain ⟨rfl, _⟩ := List.cons.inj ends
      exact led front inside shape

/-- A line that begins visibly leads all of it. -/
theorem led_line (unbroken : '\n' ∉ first :: lead) (visible : Text.isWhitespace first = false)
    (plain : first ≠ '`') : IsLed (first :: lead) := by
  intro front back same
  cases front with
  | nil => exact absurd (List.cons.inj same).1 plain
  | cons d front =>
    obtain ⟨rfl, rfl⟩ := List.cons.inj same
    have goesOn : ∀ c ∈ (first :: front).reverse, decide (c ≠ '\n') = true := by
      intro c member
      refine decide_eq_true fun feed => unbroken ?_
      rw [List.mem_reverse, feed] at member
      exact List.mem_append_left ('`' :: back) member
    rw [List.takeWhile_eq_self_iff.2 goesOn]
    exact ⟨first, by simp, visible⟩

theorem led_read (read : Json.read text = .ok value) : IsLed text := by
  rintro front back rfl
  by_contra unled
  simp only [not_exists, not_and, Bool.not_eq_false] at unled
  have accepts := read_ok.1 read
  have whole := @List.takeWhile_append_dropWhile _ (fun c => decide (c ≠ '\n')) front.reverse
  have shape := congrArg List.reverse whole
  rw [List.reverse_append, List.reverse_reverse] at shape
  have white : Text.IsWhite (front.reverse.takeWhile (· ≠ '\n')).reverse :=
    fun c member => unled c (List.mem_reverse.1 member)
  cases left : front.reverse.dropWhile (fun c => decide (c ≠ '\n')) with
  | nil =>
    rw [left, List.reverse_nil, List.nil_append] at shape
    rw [← shape] at accepts
    exact space_backtick white accepts
  | cons c others =>
    have feed : c = '\n' := by
      have nonempty : front.reverse.dropWhile (fun c => decide (c ≠ '\n')) ≠ [] := by
        rw [left]
        exact List.cons_ne_nil c others
      have stops := List.head_dropWhile_not _ nonempty
      simp only [left, List.head_cons] at stops
      simpa using stops
    rw [left, List.reverse_cons, feed, List.append_assoc] at shape
    rw [← shape, List.append_assoc, List.append_assoc] at accepts
    exact feed_backtick (outside_tracks rfl) white accepts

theorem IsLed.noFence (led : IsLed text) : ∀ line ∈ Text.lines text, isFence line = false := by
  intro line member
  refine Bool.eq_false_iff.2 fun fence => ?_
  obtain ⟨space, rest, white, rfl⟩ := fence_iff.1 fence
  obtain ⟨before, after, rfl, starts⟩ := Text.mem_lines member
  obtain ⟨c, found, visible⟩ := led (before ++ space) ('`' :: '`' :: (rest ++ after)) (by simp)
  have inSpace : c ∈ space.reverse := by
    rw [List.reverse_append, List.takeWhile_append] at found
    split at found
    · rcases starts with rfl | ⟨front, rfl⟩
      · simpa using found
      · simpa using found
    · exact (List.takeWhile_sublist _).subset found
  rw [white c (List.mem_reverse.1 inSpace)] at visible
  cases visible

end Fences

section Calls

variable {name rest argument : List Char} {method : Method}

theorem commandHere_call (nonempty : name ≠ []) (words : ∀ c ∈ name, Text.isWordChar c = true)
    {call : List Char} (called : method? call = some (method, rest)) :
    commandHere? ("db.".toList ++ (name ++ '.' :: call)) = some ⟨String.ofList name, method, rest⟩ := by
  obtain ⟨taken, left⟩ := Text.span_append Text.isWordChar name ('.' :: call) words (by simp; decide)
  have named : name.isEmpty = false := by simpa using nonempty
  unfold commandHere?
  rw [Text.after_append]
  simp only [Option.bind_some, bind, taken, left, named, Bool.false_eq_true, if_false]
  have dotted : Text.after? ['.'] ('.' :: call) = some call := by simp [Text.after?]
  simp only [dotted, Option.bind_some, called]
  rfl

theorem command_here {text : List Char} {command : Invocation}
    (found : commandHere? text = some command) : command? text = some command := by
  cases text with
  | nil => cases found
  | cons c rest => rw [command?, found]

def callText (collection method argument : String) : String :=
  "db." ++ collection ++ "." ++ method ++ "(" ++ argument ++ ")"

theorem callText_toList (collection method argument : String) :
    (callText collection method argument).toList = "db.".toList ++
      (collection.toList ++ '.' :: (method.toList ++ '(' :: (argument.toList ++ [')']))) := by
  have dot : ".".toList = ['.'] := rfl
  have opening : "(".toList = ['('] := rfl
  have closing : ")".toList = [')'] := rfl
  rw [callText, String.toList_append, String.toList_append, String.toList_append,
    String.toList_append, String.toList_append, String.toList_append, dot, opening, closing]
  simp only [List.append_assoc, List.cons_append, List.nil_append]

theorem chain_stops {text : List Char} (unfound : call? text = none) : chain text = [] := by
  rw [chain]
  split
  next found =>
    rw [unfound] at found
    cases found
  next => rfl

theorem chain_nil : chain [] = [] := chain_stops rfl

theorem withoutFences_call {lead text : List Char} {first : Char} {value : Json}
    (unbroken : ∀ c ∈ first :: lead, c ≠ '\n' ∧ c ≠ '\r') (visible : Text.isWhitespace first = false)
    (plain : first ≠ '`') (read : Json.read text = .ok value) :
    withoutFences (first :: lead ++ text ++ [')']) =
      first :: lead ++ Text.rebroken text ++ [')'] := by
  have noFeed : '\n' ∉ first :: lead := fun member => (unbroken _ member).1 rfl
  have noReturn : '\r' ∉ first :: lead := fun member => (unbroken _ member).2 rfl
  have noFence := (((led_line noFeed visible plain).append (led_read read)).append
    (@led_plain [')'] (by decide))).noFence
  have ended : (first :: lead ++ text ++ [')']).getLast? ≠ some '\n' := by
    rw [List.getLast?_concat]
    decide
  rw [withoutFences, List.filter_eq_self.2 fun line member => by rw [noFence line member]; rfl,
    Text.joined_lines ended, Text.rebroken_snoc (by decide), Text.rebroken_append noReturn]

/-- What comes of a call is decided by its argument, line breaks aside. -/
theorem ofText_call (now : Int) {collection method argument : String} {kind : Method} {value : Json}
    (named : collection ≠ "") (words : ∀ c ∈ collection.toList, Text.isWordChar c = true)
    (plain : ∀ c ∈ method.toList, c ≠ '\n' ∧ c ≠ '\r')
    (called : ∀ more, method? (method.toList ++ '(' :: more) = some (kind, more))
    (read : Json.read argument.toList = .ok value) :
    ofText now (callText collection method argument) = do
      return ⟨collection, ← operationOf now
        ⟨collection, kind, Text.rebroken argument.toList ++ [')']⟩⟩ := by
  have unbroken : ∀ c ∈ 'd' :: ('b' :: '.' :: (collection.toList ++ '.' :: (method.toList ++ ['(']))),
      c ≠ '\n' ∧ c ≠ '\r' := by
    intro c member
    simp only [List.mem_append, List.mem_cons, List.not_mem_nil, or_false] at member
    rcases member with rfl | rfl | rfl | member | rfl | member | rfl
    · decide
    · decide
    · decide
    · have word := words c member
      constructor <;> (rintro rfl; exact absurd word (by decide))
    · decide
    · exact plain c member
    · decide
  have cleaned := withoutFences_call unbroken (by decide) (by decide) read
  have nonempty : collection.toList ≠ [] := fun empty => named (String.toList_eq_nil_iff.1 empty)
  have found := commandHere_call nonempty words (called (Text.rebroken argument.toList ++ [')']))
  have begins : "db.".toList = ['d', 'b', '.'] := rfl
  rw [begins] at found
  have shape (inner : List Char) :
      ['d', 'b', '.'] ++ (collection.toList ++ '.' :: (method.toList ++ '(' :: (inner ++ [')']))) =
        'd' :: ('b' :: '.' :: (collection.toList ++ '.' :: (method.toList ++ ['(']))) ++ inner ++
          [')'] := by
    simp
  rw [ofText, ofCode, callText_toList, begins, shape, cleaned, ← shape, command_here found]
  simp only [String.ofList_toList]

end Calls

section Operations

variable {now : Int} {text : List Char} {value : Json}

theorem callParts_passes (passes : argumentSearch.after? .outside 0 text = some (.outside, 0))
    (rest : List Char) : callParts (text ++ ')' :: rest) = (text, chain rest) := by
  rw [callParts, closeCall_on passes]

theorem callParts_closed (read : Json.read text = .ok value) :
    callParts (text ++ [')']) = (text, []) := by
  rw [callParts_passes (after_read read), chain_nil]

theorem json_strict (read : Json.read text = .ok value) : json now text = .ok value := by
  rw [json, read]

theorem optionalDocument_object {entries : List (String × Json)} {filter : Document}
    (read : Json.read text = .ok (.object entries))
    (converted : Extended.value? (.object entries) = some (.document filter)) :
    optionalDocument now text = .ok filter := by
  obtain ⟨group, found, same⟩ := group_object read
  have document : document now group = .ok filter := by
    rw [Query.document, Query.value, json_strict same]
    simp only [converted]
    rfl
  rw [optionalDocument, found]
  exact document

theorem findOperation_object {entries : List (String × Json)} {filter : Document}
    (read : Json.read text = .ok (.object entries))
    (converted : Extended.value? (.object entries) = some (.document filter)) :
    findOperation now text [] = .ok (.find filter) := by
  rw [findOperation, arguments_object read]
  simp only [List.headD_cons, optionalDocument_object read converted]
  rfl

theorem countOperation_object {entries : List (String × Json)} {filter : Document}
    (read : Json.read text = .ok (.object entries))
    (converted : Extended.value? (.object entries) = some (.document filter)) :
    countOperation now text [] = .ok (.count filter) := by
  rw [countOperation, optionalDocument_object read converted]
  rfl

theorem values_documents {items : List Json} {pipeline : List Document}
    (converted : List.Forall₂ (fun item stage => Extended.value? item = some (.document stage))
      items pipeline) :
    Extended.values? items = some (pipeline.map .document) := by
  induction converted with
  | nil => rfl
  | cons first rest ih =>
    rw [Extended.values?, first, ih]
    rfl

theorem stages_documents (index : Nat) (pipeline : List Document) :
    stages index (pipeline.map .document) = .ok pipeline := by
  induction pipeline generalizing index with
  | nil => rfl
  | cons stage rest ih =>
    rw [List.map_cons, stages, ih]
    rfl

theorem aggregateOperation_list {items : List Json} {pipeline : List Document}
    (read : Json.read text = .ok (.list items))
    (converted : List.Forall₂ (fun item stage => Extended.value? item = some (.document stage))
      items pipeline) :
    aggregateOperation now text [] = .ok (.aggregate pipeline) := by
  obtain ⟨group, found, same⟩ := group_list read
  have stages : Query.pipeline now group = .ok pipeline := by
    rw [Query.pipeline, Query.value, json_strict same]
    simp only [Extended.value?, values_documents converted]
    exact stages_documents 0 pipeline
  rw [aggregateOperation, found]
  change (do return Operation.aggregate (← Query.pipeline now group)) = _
  rw [stages]
  rfl

end Operations

/-- A call with an object or a list in strict JSON between its brackets is exactly the query with
the documents that the JSON stands for. -/
theorem ofText_strict (now : Int) {collection : String} (named : collection ≠ "")
    (words : ∀ c ∈ collection.toList, Text.isWordChar c = true) :
    (∀ argument entries filter, Json.read argument.toList = .ok (.object entries) →
      Extended.value? (.object entries) = some (.document filter) →
      ofText now (callText collection "find" argument) = .ok ⟨collection, .find filter⟩ ∧
      ofText now (callText collection "count" argument) = .ok ⟨collection, .count filter⟩ ∧
      ofText now (callText collection "countDocuments" argument) =
        .ok ⟨collection, .count filter⟩) ∧
    ∀ argument items pipeline, Json.read argument.toList = .ok (.list items) →
      List.Forall₂ (fun item stage => Extended.value? item = some (.document stage))
        items pipeline →
      ofText now (callText collection "aggregate" argument) =
        .ok ⟨collection, .aggregate pipeline⟩ := by
  have call {method argument : String} {kind : Method} {value : Json} {operation : Operation}
      (plain : ∀ c ∈ method.toList, c ≠ '\n' ∧ c ≠ '\r')
      (called : ∀ more, method? (method.toList ++ '(' :: more) = some (kind, more))
      (read : Json.read argument.toList = .ok value)
      (operates : operationOf now ⟨collection, kind, Text.rebroken argument.toList ++ [')']⟩ =
        .ok operation) :
      ofText now (callText collection method argument) = .ok ⟨collection, operation⟩ := by
    rw [ofText_call now named words plain called read, operates]
    rfl
  constructor
  · intro argument entries filter read converted
    have same := read_rebroken read
    have count : operationOf now ⟨collection, .count, Text.rebroken argument.toList ++ [')']⟩ =
        .ok (.count filter) := by
      rw [operationOf, callParts_closed same]
      exact countOperation_object same converted
    refine ⟨call (Text.all_listed (by decide)) (fun more => rfl) read ?_,
      call (Text.all_listed (by decide)) (fun more => rfl) read count,
      call (Text.all_listed (by decide)) (fun more => rfl) read count⟩
    rw [operationOf, callParts_closed same]
    exact findOperation_object same converted
  · intro argument items pipeline read converted
    have same := read_rebroken read
    refine call (Text.all_listed (by decide)) (fun more => rfl) read ?_
    rw [operationOf, callParts_closed same]
    exact aggregateOperation_list same converted

def noteFilter : String :=
  "\x7b\r\n  \"note\": \"db.x.find(\x7b'a\\\"\x7d)],\\\\\",\r\n  \"code\": [1, \x7b\"$gt\": \"```\"\x7d]\n\x7d"

def noteDocument : Document :=
  [("note", .text "db.x.find(\x7b'a\"\x7d)],\\"),
    ("code", .list [.int 1, .document [("$gt", .text "```")]])]

def notePipeline : String := "[ \x7b\"$match\": \x7b\"note\": \"])\"\x7d\x7d,\n\x7b\"$limit\": 5\x7d ]"

def noteStages : List Document :=
  [[("$match", .document [("note", .text "])")])], [("$limit", .int 5)]]

theorem ofText_strict_notes :
    ofText 0 (callText "orders" "find" noteFilter) = .ok ⟨"orders", .find noteDocument⟩ ∧
    ofText 0 (callText "orders" "aggregate" notePipeline) =
      .ok ⟨"orders", .aggregate noteStages⟩ := by
  have filter : Json.read noteFilter.toList = .ok (.object
      [("note", .text "db.x.find(\x7b'a\"\x7d)],\\"),
        ("code", .list [.number (.integer 1), .object [("$gt", .text "```")]])]) := by cbv
  have pipeline : Json.read notePipeline.toList = .ok (.list
      [.object [("$match", .object [("note", .text "])")])],
        .object [("$limit", .number (.integer 5))]]) := by cbv
  obtain ⟨single, several⟩ := @ofText_strict 0 "orders" (by decide) (Text.all_listed (by decide))
  exact ⟨(single noteFilter _ noteDocument filter (by cbv)).1,
    several notePipeline _ noteStages pipeline (.cons (by cbv) (.cons (by cbv) .nil))⟩

end Inquiry.Query
