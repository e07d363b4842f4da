import Inquiry.Proofs.Query.Expression
import Inquiry.Proofs.Query.Plan

/-!
A call of `find` with strict objects for its arguments and a chain of cursor calls, in whatever
layout, is the plan that the arguments and the last settings of the chain make.
-/
namespace Inquiry.Query

open Json Inquiry.Bracket

def Denotes (text : List Char) (fields : Document) : Prop :=
  ∃ entries, Json.read text = .ok (.object entries) ∧
    Extended.value? (.object entries) = some (.document fields)

def Setting.methods : Setting → List String
  | .sort _ => ["sort"]
  | .skip _ => ["skip"]
  | .limit _ => ["limit"]
  | .neutral => ["pretty", "toArray"]

inductive Setting.IsArgument : Setting → List Char → Prop
  | sort {order : Document} {before text after : List Char} (white : Text.IsWhite before)
      (whiteAfter : Text.IsWhite after) (denotes : Denotes text order) :
      IsArgument (.sort order) (before ++ (text ++ after))
  | skip {n : Int} {text : List Char} (integer : IsInteger64 text n) : IsArgument (.skip n) text
  | limit {n : Int} {text : List Char} (integer : IsInteger64 text n)
      (notLeast : n ≠ -Decimal.int64Bound) : IsArgument (.limit n) text
  | neutral {gap : List Char} (white : Text.IsWhite gap) : IsArgument .neutral gap

inductive IsLink : Setting → List Char → Prop
  | intro {setting : Setting} {name : String} {before gap after inside : List Char}
      (named : name ∈ setting.methods) (argument : setting.IsArgument inside)
      (white : Text.IsWhite before) (whiteGap : Text.IsWhite gap) (whiteAfter : Text.IsWhite after) :
      IsLink setting
        (before ++ '.' :: (gap ++ (name.toList ++ (after ++ '(' :: (inside ++ [')'])))))

inductive IsLinks : List Setting → List Char → Prop
  | nil : IsLinks [] []
  | cons {setting : Setting} {settings : List Setting} {link text : List Char}
      (first : IsLink setting link) (rest : IsLinks settings text) :
      IsLinks (setting :: settings) (link ++ text)

inductive IsArguments (filter : Document) : Option Document → List Char → Prop
  | single {text : List Char} (denotes : Denotes text filter) : IsArguments filter none text
  | projected {text more : List Char} {fields : Document} (denotes : Denotes text filter)
      (projects : Denotes more fields) : IsArguments filter (some fields) (text ++ ',' :: more)

inductive IsFind (collection : String) (filter : Document) (projection : Option Document)
    (settings : List Setting) : List Char → Prop
  | intro {arguments links gap : List Char} (given : IsArguments filter projection arguments)
      (chained : IsLinks settings links) (white : Text.IsWhite gap) :
      IsFind collection filter projection settings
        ("db.".toList ++ (collection.toList ++ '.' :: ("find(".toList ++
          (arguments ++ ')' :: (links ++ gap)))))

section Documents

variable {text : List Char} {fields : Document}

theorem Denotes.rebroken (denotes : Denotes text fields) : Denotes (Text.rebroken text) fields := by
  obtain ⟨entries, read, converted⟩ := denotes
  exact ⟨entries, read_rebroken read, converted⟩

theorem Denotes.led (denotes : Denotes text fields) : IsLed text := by
  obtain ⟨entries, read, _⟩ := denotes
  exact led_read read

theorem Denotes.passes (denotes : Denotes text fields) :
    argumentSearch.after? .outside 0 text = some (.outside, 0) := by
  obtain ⟨entries, read, _⟩ := denotes
  exact after_read read

theorem Denotes.visible (denotes : Denotes text fields) : isBlank text = false := by
  obtain ⟨entries, read, _⟩ := denotes
  exact object_visible read

theorem Denotes.optionalDocument (denotes : Denotes text fields) (now : Int) :
    optionalDocument now text = .ok fields := by
  obtain ⟨entries, read, converted⟩ := denotes
  exact optionalDocument_object read converted

theorem Denotes.document (denotes : Denotes text fields) (now : Int) :
    document now text = .ok fields := by
  obtain ⟨entries, read, converted⟩ := denotes
  rw [Query.document, Query.value, json_strict read]
  simp only [converted]
  rfl

theorem gap_white {gap : List Char} (blank : IsGap gap) : Text.IsWhite gap :=
  fun c member => Relaxed.blank_space (blank c member)

/-- The object is the one group of its text. -/
theorem Denotes.group (denotes : Denotes text fields) : ∃ before group after,
    text = before ++ (group ++ after) ∧ Text.IsWhite before ∧ Text.IsWhite after ∧
      Denotes group fields ∧ IsGroup group := by
  obtain ⟨entries, read, converted⟩ := denotes
  obtain ⟨gap, c, rest, next, rfl, blank, accepts, begun⟩ := accepts_begin (read_ok.1 read)
  rcases begun with plain | ⟨list, _⟩ | ⟨_, rfl, rfl⟩
  · cases plain
  · cases list
  · obtain ⟨front, back, rfl, found, taken, blankBack⟩ :=
      @groupTail_accepted _ _ _ 0 _ _ (outside_tracks rfl) accepts
    obtain ⟨_, _, whole⟩ := groupTail_prefix found
    exact ⟨gap, '\x7b' :: front, back, by simp, gap_white blank, gap_white blankBack,
      ⟨entries, read_ok.2 (Reader.accepts_cons.2 ⟨_, rfl, taken⟩), converted⟩, front, rfl, whole⟩

end Documents

/-- A group begins and ends with a bracket, so no line break reaches across its ends. -/
theorem rebroken_group {before group after : List Char} (isGroup : IsGroup group) :
    Text.rebroken (before ++ (group ++ after)) =
      Text.rebroken before ++ (Text.rebroken group ++ Text.rebroken after) := by
  obtain ⟨tail, rfl, whole⟩ := isGroup
  obtain ⟨front, c, _, _, _, shape, ended, _, ends⟩ := groupTail_found.1 whole
  have last : ('\x7b' :: tail).getLast? ≠ some '\r' := by
    rw [ended, ← List.cons_append, List.getLast?_concat]
    rintro same
    cases same
    simp [groupSearch, isClosing] at ends
  rw [Text.rebroken_join (.inr (by simp)), Text.rebroken_join (.inl last)]

theorem passes_quiet {text : List Char} (depth : Nat) (quiet : ∀ c ∈ text, Quiet c) :
    argumentSearch.after? .outside depth text = some (.outside, depth) := by
  rw [after_ignored fun c member => argumentSearch_quiet (quiet c member), foldl_quiet quiet]

section Arguments

variable {setting : Setting} {text : List Char} {n : Int}

theorem writes_mark {c : Char} (writes : Decimal.Writes text n) (member : c ∈ text) :
    Quiet c ∧ Text.isWhitespace c = false ∧ c ≠ '`' := by
  have signs : ∀ c ∈ ['-', '+'], Quiet c ∧ Text.isWhitespace c = false ∧ c ≠ '`' :=
    Text.all_listed (by decide)
  rcases writes.characters.2 c member with digit | rfl | rfl
  · exact ⟨digit_quiet digit, writes_visible writes c member, by rintro rfl; cases digit⟩
  · exact signs _ (by simp)
  · exact signs _ (by simp)

theorem IsInteger64.quiet (integer : IsInteger64 text n) : ∀ c ∈ text, Quiet c := by
  obtain ⟨before, digits, after, rfl, white, whiteAfter, writes, _⟩ := integer
  simp only [List.forall_mem_append]
  exact ⟨⟨fun c member => white_quiet (white c member),
    fun c member => (writes_mark writes member).1⟩,
    fun c member => white_quiet (whiteAfter c member)⟩

theorem white_led (white : Text.IsWhite text) : IsLed text :=
  led_plain fun member => absurd (white _ member) (by decide)

theorem IsInteger64.led (integer : IsInteger64 text n) : IsLed text := by
  obtain ⟨before, digits, after, rfl, white, whiteAfter, writes, _⟩ := integer
  refine ((white_led white).append (led_plain fun member => ?_)).append (white_led whiteAfter)
  exact (writes_mark writes member).2.2 rfl

theorem rebroken_word {before word after : List Char} (nonempty : word ≠ [])
    (visible : ∀ c ∈ word, Text.isWhitespace c = false) :
    Text.rebroken (before ++ (word ++ after)) =
      Text.rebroken before ++ (word ++ Text.rebroken after) := by
  obtain ⟨first, rest, rfl⟩ := List.exists_cons_of_ne_nil nonempty
  have unbroken : '\r' ∉ rest := fun member =>
    absurd (visible _ (List.mem_cons_of_mem first member)) (by decide)
  rw [List.cons_append, Text.rebroken_visible (visible first List.mem_cons_self),
    Text.rebroken_append unbroken]
  rfl

theorem IsInteger64.rebroken (integer : IsInteger64 text n) : IsInteger64 (Text.rebroken text) n := by
  obtain ⟨before, digits, after, rfl, white, whiteAfter, writes, range⟩ := integer
  refine ⟨_, digits, _, ?_, white.rebroken, whiteAfter.rebroken, writes, range⟩
  rw [List.append_assoc, List.append_assoc,
    rebroken_word writes.characters.1 (writes_visible writes)]

theorem Setting.IsArgument.passes (argument : setting.IsArgument text) :
    argumentSearch.after? .outside 0 text = some (.outside, 0) := by
  have gap {text : List Char} (white : Text.IsWhite text) :
      argumentSearch.after? .outside 0 text = some (.outside, 0) :=
    passes_quiet 0 fun c member => white_quiet (white c member)
  cases argument with
  | sort white whiteAfter denotes => rw [after_on (gap white), after_on denotes.passes, gap whiteAfter]
  | skip integer => exact passes_quiet 0 integer.quiet
  | limit integer => exact passes_quiet 0 integer.quiet
  | neutral white => exact gap white

theorem Setting.IsArgument.led (argument : setting.IsArgument text) : IsLed text := by
  cases argument with
  | sort white whiteAfter denotes =>
    exact (white_led white).append (denotes.led.append (white_led whiteAfter))
  | skip integer => exact integer.led
  | limit integer => exact integer.led
  | neutral white => exact white_led white

/-- The argument as its one group and white space. -/
theorem sort_group {order : Document} (argument : (Setting.sort order).IsArgument text) :
    ∃ before group after, text = before ++ (group ++ after) ∧ Text.IsWhite before ∧
      Text.IsWhite after ∧ Denotes group order ∧ IsGroup group := by
  cases argument with
  | @sort _ before _ after white whiteAfter denotes =>
    obtain ⟨front, group, back, rfl, whiteFront, whiteBack, denotes, isGroup⟩ := denotes.group
    exact ⟨before ++ front, group, back ++ after, by simp, white.append whiteFront,
      whiteBack.append whiteAfter, denotes, isGroup⟩

theorem Setting.IsArgument.rebroken (argument : setting.IsArgument text) :
    setting.IsArgument (Text.rebroken text) := by
  cases setting with
  | sort order =>
    obtain ⟨before, group, after, rfl, white, whiteAfter, denotes, isGroup⟩ := sort_group argument
    rw [rebroken_group isGroup]
    exact .sort white.rebroken whiteAfter.rebroken denotes.rebroken
  | skip n =>
    cases argument with
    | skip integer => exact .skip integer.rebroken
  | limit n =>
    cases argument with
    | limit integer notLeast => exact .limit integer.rebroken notLeast
  | neutral =>
    cases argument with
    | neutral white => exact .neutral white.rebroken

/-- A call with such an argument sets what it says. -/
theorem Setting.IsArgument.sets {name : String} (now : Int) (argument : setting.IsArgument text)
    (named : name ∈ setting.methods) : Call.Sets now ⟨name, text⟩ setting := by
  cases setting with
  | sort order =>
    obtain ⟨before, group, after, rfl, white, _, denotes, isGroup⟩ := sort_group argument
    have blank := blank_unbraced (List.all_eq_true.2 white)
    refine sets_sort (List.mem_singleton.1 named)
      (sortOrder_iff.2 ⟨before, group, after, ?_, denotes.document now⟩)
    exact ⟨(List.append_assoc _ _ _).symm, blank.1, blank.2, isGroup⟩
  | skip n =>
    cases argument with
    | skip integer => exact sets_skip (List.mem_singleton.1 named) (cursorNumber_iff.2 integer)
  | limit n =>
    cases argument with
    | limit integer => exact sets_limit (List.mem_singleton.1 named) (cursorNumber_iff.2 integer)
  | neutral => exact sets_neutral (by simpa [Setting.methods] using named)

end Arguments

section Links

variable {setting : Setting} {settings : List Setting} {name : String} {link text gap : List Char}

theorem method_word (named : name ∈ setting.methods) : name.toList ≠ [] ∧
    ∀ c ∈ name.toList, isMethodChar c = true ∧ c ≠ '`' := by
  cases setting <;> simp only [Setting.methods, List.mem_cons, List.not_mem_nil, or_false] at named
  case neutral => rcases named with rfl | rfl <;> exact ⟨by decide, Text.all_listed (by decide)⟩
  all_goals
    subst named
    exact ⟨by decide, Text.all_listed (by decide)⟩

theorem methodChar_dark {c : Char} (part : isMethodChar c = true) : Text.isWhitespace c = false := by
  rcases Bool.or_eq_true_iff.1 part with letter | underscore
  · exact Text.alphanumeric_dark letter
  · rw [beq_iff_eq.1 underscore]
    decide

/-- A method ends at white space or at its bracket. -/
theorem method_parts {rest : List Char} (word : ∀ c ∈ text, isMethodChar c = true)
    (white : Text.IsWhite gap) :
    (text ++ (gap ++ '(' :: rest)).takeWhile isMethodChar = text ∧
      (text ++ (gap ++ '(' :: rest)).dropWhile isMethodChar = gap ++ '(' :: rest := by
  refine Text.span_append isMethodChar text _ word fun c first => ?_
  cases gap with
  | nil =>
    cases first
    decide
  | cons d gap =>
    cases first
    refine Bool.eq_false_iff.2 fun part => ?_
    have dark := methodChar_dark part
    rw [white c List.mem_cons_self] at dark
    cases dark

theorem call_link {before after inside rest : List Char} (named : name ∈ setting.methods)
    (argument : setting.IsArgument inside) (white : Text.IsWhite before)
    (whiteGap : Text.IsWhite gap) (whiteAfter : Text.IsWhite after) :
    call? (before ++ '.' :: (gap ++ (name.toList ++ (after ++ '(' :: (inside ++ ')' :: rest))))) =
      some (⟨name, inside⟩, rest) := by
  obtain ⟨nonempty, word⟩ := method_word named
  obtain ⟨first, others, shape⟩ := List.exists_cons_of_ne_nil nonempty
  have dotted {more : List Char} : Text.trimStart (before ++ '.' :: more) = '.' :: more :=
    (Text.trimStart_iff (by decide)).2 ⟨before, white, rfl⟩
  have begun {more : List Char} :
      Text.trimStart (gap ++ (name.toList ++ more)) = name.toList ++ more := by
    have visible := methodChar_dark (word first (by simp [shape])).1
    rw [Text.trimStart_white whiteGap, shape]
    exact Text.trimStart_visible visible
  have opened {more : List Char} : Text.trimStart (after ++ '(' :: more) = '(' :: more :=
    (Text.trimStart_iff (by decide)).2 ⟨after, whiteAfter, rfl⟩
  obtain ⟨taken, left⟩ := @method_parts name.toList after (inside ++ ')' :: rest)
    (fun c member => (word c member).1) whiteAfter
  have single {c : Char} {more : List Char} : Text.after? [c] (c :: more) = some more :=
    Text.after_append [c] more
  have something : name.toList.isEmpty = false := by simp [shape]
  rw [call?, dotted, single]
  simp only [bind, Option.bind_some, begun, taken, left, opened, single, something,
    Bool.false_eq_true, if_false, closeCall_on argument.passes, String.ofList_toList]
  rfl

theorem chain_cons {rest : List Char} {call : Call} (found : call? text = some (call, rest)) :
    chain text = call :: chain rest := by
  rw [chain]
  split
  next same =>
    rw [found] at same
    cases same
    rfl
  next stops =>
    rw [found] at stops
    cases stops

theorem chain_white (white : Text.IsWhite gap) : chain gap = [] := by
  have empty : Text.trimStart gap = [] := List.dropWhile_eq_nil_iff.2 white
  refine chain_stops ?_
  rw [call?, empty]
  rfl

/-- The calls of a chain set what its links say, in their order. -/
theorem IsLinks.chain (now : Int) (links : IsLinks settings text) (white : Text.IsWhite gap) :
    List.Forall₂ (Call.Sets now) (chain (text ++ gap)) settings := by
  induction links with
  | nil =>
    rw [List.nil_append, chain_white white]
    exact .nil
  | @cons setting settings _ rest first more ih =>
    cases first with
    | @intro name before space after inside named argument whiteBefore whiteSpace whiteAfter =>
      have shape : before ++ '.' :: (space ++ (name.toList ++ (after ++ '(' :: (inside ++ [')'])))) ++
          rest ++ gap = before ++ '.' :: (space ++ (name.toList ++ (after ++ '(' :: (inside ++
            ')' :: (rest ++ gap))))) := by simp
      rw [shape, chain_cons (call_link named argument whiteBefore whiteSpace whiteAfter)]
      exact .cons (argument.sets now named) ih

theorem IsLink.led (link : IsLink setting text) : IsLed text := by
  cases link with
  | intro named argument white whiteGap whiteAfter =>
    have word : IsLed _ := led_plain fun member => ((method_word named).2 _ member).2 rfl
    have sign {c : Char} (other : c ≠ '`') : IsLed [c] := led_plain (by simpa using other.symm)
    exact (white_led white).append ((sign (by decide)).append ((white_led whiteGap).append
      (word.append ((white_led whiteAfter).append ((sign (by decide)).append
        (argument.led.append (sign (by decide))))))))

theorem IsLinks.led (links : IsLinks settings text) : IsLed text := by
  induction links with
  | nil => exact led_plain (by simp)
  | cons first rest ih => exact first.led.append ih

theorem IsLink.rebroken {rest : List Char} (link : IsLink setting text) :
    ∃ line, IsLink setting line ∧ Text.rebroken (text ++ rest) = line ++ Text.rebroken rest := by
  cases link with
  | @intro name before gap after inside named argument white whiteGap whiteAfter =>
    obtain ⟨nonempty, word⟩ := method_word named
    refine ⟨_, .intro named argument.rebroken white.rebroken whiteGap.rebroken whiteAfter.rebroken,
      ?_⟩
    have shape : before ++ '.' :: (gap ++ (name.toList ++ (after ++ '(' :: (inside ++ [')'])))) ++
        rest = before ++ '.' :: (gap ++ (name.toList ++ (after ++ '(' :: (inside ++ ')' :: rest)))) := by
      simp
    rw [shape, Text.rebroken_visible (by decide),
      rebroken_word nonempty fun c member => methodChar_dark (word c member).1,
      Text.rebroken_visible (by decide), Text.rebroken_visible (by decide)]
    simp

theorem IsLinks.rebroken (links : IsLinks settings text) : IsLinks settings (Text.rebroken text) := by
  induction links with
  | nil => exact .nil
  | cons first rest ih =>
    obtain ⟨line, link, same⟩ := first.rebroken
    rw [same]
    exact .cons link ih

end Links

section Calls

variable {collection : String} {filter : Document} {projection : Option Document}
  {settings : List Setting} {text links gap rest : List Char} {now : Int}

theorem IsArguments.led (given : IsArguments filter projection text) : IsLed text := by
  cases given with
  | single denotes => exact denotes.led
  | projected denotes projects =>
    have comma : IsLed [','] := led_plain (by decide)
    exact denotes.led.append (comma.append projects.led)

theorem IsArguments.rebroken (given : IsArguments filter projection text) :
    IsArguments filter projection (Text.rebroken text) := by
  cases given with
  | single denotes => exact .single denotes.rebroken
  | projected denotes projects =>
    rw [Text.rebroken_visible (by decide)]
    exact .projected denotes.rebroken projects.rebroken

theorem IsArguments.closed (given : IsArguments filter projection text) (rest : List Char) :
    closeCall? (text ++ ')' :: rest) = some (text, rest) := by
  cases given with
  | single denotes => exact closeCall_on denotes.passes rest
  | @projected text more fields denotes projects =>
    have comma (after : List Char) : splitClose .outside 0 (',' :: after) =
        (splitClose .outside 0 after).map fun parts => (',' :: parts.1, parts.2) := rfl
    have closed : splitClose .outside 0 (more ++ ')' :: rest) = some (more, rest) :=
      closeCall_on projects.passes rest
    rw [List.append_assoc, List.cons_append, closeCall?, splitClose_on denotes.passes, comma, closed]
    rfl

/-- The filter is the first argument, the projection the second one. -/
theorem IsArguments.read (given : IsArguments filter projection text) (now : Int) :
    optionalDocument now ((arguments text).headD []) = .ok filter ∧
      projection? now (arguments text) = .ok (wanted projection) := by
  cases given with
  | single denotes =>
    have alone : arguments text = [text] := by
      simp [arguments, pieces_whole denotes.passes, denotes.visible]
    rw [alone]
    exact ⟨denotes.optionalDocument now, rfl⟩
  | @projected text more fields denotes projects =>
    have parted : pieces .outside 0 (',' :: more) = [[], more] := by
      have single := pieces_whole projects.passes
      simp [pieces, Quote.sees, isQuote, single]
    have both : arguments (text ++ ',' :: more) = [text, more] := by
      simp [arguments, pieces_on denotes.passes, parted, denotes.visible, projects.visible]
    rw [both]
    refine ⟨denotes.optionalDocument now, ?_⟩
    rw [projection?, projects.optionalDocument now]
    cases fields <;> rfl

theorem IsLinks.argument {setting : Setting} (chained : IsLinks settings text)
    (member : setting ∈ settings) : ∃ inside, setting.IsArgument inside := by
  induction chained with
  | nil => cases member
  | cons first rest ih =>
    rcases List.mem_cons.1 member with rfl | member
    · cases first with
      | intro named argument => exact ⟨_, argument⟩
    · exact ih member

theorem IsFind.bounded (find : IsFind collection filter projection settings text) :
    (Plan.of filter settings projection).IsBounded := by
  obtain ⟨_, chained, _⟩ := find
  refine Plan.of_bounded fun setting member => ?_
  obtain ⟨inside, argument⟩ := chained.argument member
  cases argument with
  | sort | neutral => trivial
  | skip integer =>
    obtain ⟨_, _, _, _, _, _, _, _, high⟩ := integer
    exact high
  | limit integer notLeast =>
    obtain ⟨_, _, _, _, _, _, _, low, high⟩ := integer
    simp only [Setting.IsBounded]
    omega

theorem IsLink.closed {setting : Setting} (link : IsLink setting text) :
    ∃ front, text = front ++ [')'] := by
  cases link with
  | @intro name before gap after inside =>
    exact ⟨before ++ '.' :: (gap ++ (name.toList ++ (after ++ '(' :: inside))), by simp⟩

theorem IsLinks.closed (chained : IsLinks settings text) : ∃ front, ')' :: text = front ++ [')'] := by
  induction chained with
  | nil => exact ⟨[], rfl⟩
  | @cons _ _ link text first rest ih =>
    obtain ⟨front, ended⟩ := ih
    obtain ⟨inside, rfl⟩ := first.closed
    refine ⟨')' :: (inside ++ front), ?_⟩
    rw [List.append_assoc, List.singleton_append, ended]
    simp

def findLead (collection : String) : List Char :=
  "db.".toList ++ (collection.toList ++ '.' :: "find(".toList)

theorem findLead_plain (words : ∀ c ∈ collection.toList, Text.isWordChar c = true) :
    '\r' ∉ findLead collection ∧ '`' ∉ findLead collection := by
  have lead : ('\r' ∉ "db.".toList ∧ '`' ∉ "db.".toList) ∧
      '\r' ∉ '.' :: "find(".toList ∧ '`' ∉ '.' :: "find(".toList := by decide
  constructor
  all_goals
    intro member
    rcases List.mem_append.1 member with member | member
    · simp_all
    · rcases List.mem_append.1 member with member | member
      · exact absurd (words _ member) (by decide)
      · simp_all

theorem withoutFences_find (words : ∀ c ∈ collection.toList, Text.isWordChar c = true)
    (find : IsFind collection filter projection settings text) :
    IsFind collection filter projection settings (withoutFences text) := by
  cases find with
  | @intro arguments links gap given chained white =>
    obtain ⟨unbroken, plain⟩ := findLead_plain words
    obtain ⟨front, ended⟩ := chained.closed
    have closing : IsLed [')'] := led_plain (by decide)
    have led : IsLed (findLead collection ++ (arguments ++ (')' :: links ++ gap))) :=
      (led_plain plain).append
        (given.led.append ((closing.append chained.led).append (white_led white)))
    have shape (arguments links gap : List Char) :
        "db.".toList ++ (collection.toList ++ '.' :: ("find(".toList ++
            (arguments ++ ')' :: (links ++ gap)))) =
          findLead collection ++ (arguments ++ (')' :: links ++ gap)) := by simp [findLead]
    obtain ⟨after, whiteAfter, joined⟩ :=
      @Text.joined_spaced gap (findLead collection ++ (arguments ++ front)) ')' (by decide) white
    have kept : Text.rebroken (findLead collection ++ (arguments ++ front)) ++ [')'] =
        findLead collection ++ (Text.rebroken arguments ++ ')' :: Text.rebroken links) := by
      rw [← Text.rebroken_snoc (by decide), ← Text.rebroken_visible (by decide),
        ← Text.rebroken_append unbroken, ended]
      simp
    have noFence : ∀ line ∈ Text.lines (findLead collection ++ (arguments ++ (')' :: links ++ gap))),
        (!isFence line) = true := fun line member => by rw [led.noFence line member]; rfl
    rw [withoutFences, shape, List.filter_eq_self.2 noFence]
    have text : findLead collection ++ (arguments ++ (')' :: links ++ gap)) =
        findLead collection ++ (arguments ++ front) ++ ')' :: gap := by simp [ended]
    have cleaned : Text.rebroken (findLead collection ++ (arguments ++ front)) ++ ')' :: after =
        findLead collection ++ (Text.rebroken arguments ++ (')' :: Text.rebroken links ++ after)) := by
      rw [← List.singleton_append, ← List.append_assoc, kept]
      simp
    rw [text, joined, cleaned, ← shape]
    exact .intro given.rebroken chained.rebroken whiteAfter

theorem ofCode_find (named : collection ≠ "")
    (words : ∀ c ∈ collection.toList, Text.isWordChar c = true)
    (find : IsFind collection filter projection settings text) :
    ofCode now text = .ok ⟨collection, (Plan.of filter settings projection).operation⟩ := by
  obtain ⟨given, chained, white⟩ := find
  have nonempty : collection.toList ≠ [] := fun empty => named (String.toList_eq_nil_iff.1 empty)
  have called (rest : List Char) := commandHere_call nonempty words
    (show method? ("find(".toList ++ rest) = some (.find, rest) from rfl)
  obtain ⟨found, projected⟩ := given.read now
  rw [ofCode, command_here (called _)]
  simp only [operationOf, callParts, given.closed,
    findOperation_plan found projected (chained.chain now white), String.ofList_toList]
  rfl

end Calls

/-- A call of `find` and its chain are the plan of the arguments and the last settings, and as a
pipeline the plan gives the documents that a cursor would give. -/
theorem ofText_find (now : Int) {collection text : String} {filter : Document}
    {projection : Option Document} {settings : List Setting} (named : collection ≠ "")
    (words : ∀ c ∈ collection.toList, Text.isWordChar c = true)
    (find : IsFind collection filter projection settings text.toList) :
    ofText now text = .ok ⟨collection, (Plan.of filter settings projection).operation⟩ ∧
      ∀ (meaning : Interpretation) (documents : List Document),
        meaning.run (Plan.of filter settings projection).pipeline documents =
          some ((Plan.of filter settings projection).answer meaning documents) := by
  exact ⟨ofCode_find named words (withoutFences_find words find), fun _ => run_pipeline find.bounded⟩

def ordersText : String :=
  "db.orders.find(\x7b\"a\": 1\x7d, \x7b\"b\": 1\x7d)\r\n  .limit( -3 ) .sort(\x7b\"x\": 1\x7d)\n. skip (+5)"
    ++ ".sort( \x7b\"y\": 1\x7d\t).toArray()\r\n"

def ordersSettings : List Setting :=
  [.limit (-3), .sort [("x", .int 1)], .skip 5, .sort [("y", .int 1)], .neutral]

theorem ordersText_find : IsFind "orders" [("a", .int 1)] (some [("b", .int 1)]) ordersSettings
    ordersText.toList := by
  have white (gap : List Char) (checked : gap.all Text.isWhitespace = true) : Text.IsWhite gap :=
    List.all_eq_true.1 checked
  have bare : Text.IsWhite [] := white [] rfl
  have space : Text.IsWhite [' '] := white _ (by decide)
  have feed : Text.IsWhite ['\n'] := white _ (by decide)
  have ended : Text.IsWhite ['\r', '\n'] := white _ (by decide)
  have indented : Text.IsWhite ['\r', '\n', ' ', ' '] := white _ (by decide)
  have tab : Text.IsWhite ['\t'] := white _ (by decide)
  have filter : Denotes "\x7b\"a\": 1\x7d".toList [("a", .int 1)] :=
    ⟨[("a", .number (.integer 1))], by cbv, by cbv⟩
  have fields : Denotes " \x7b\"b\": 1\x7d".toList [("b", .int 1)] :=
    ⟨[("b", .number (.integer 1))], by cbv, by cbv⟩
  have first : Denotes "\x7b\"x\": 1\x7d".toList [("x", .int 1)] :=
    ⟨[("x", .number (.integer 1))], by cbv, by cbv⟩
  have second : Denotes "\x7b\"y\": 1\x7d".toList [("y", .int 1)] :=
    ⟨[("y", .number (.integer 1))], by cbv, by cbv⟩
  have three : IsInteger64 [' ', '-', '3', ' '] (-3) :=
    ⟨[' '], ['-', '3'], [' '], rfl, space, space, .minus (by decide), by decide, by decide⟩
  have five : IsInteger64 ['+', '5'] 5 :=
    ⟨[], ['+', '5'], [], rfl, bare, bare, .plus (by decide), by decide, by decide⟩
  have limit := @IsLink.intro _ "limit" _ _ _ _ (List.mem_singleton.2 rfl)
    (.limit three (by decide)) indented bare bare
  have sort := @IsLink.intro _ "sort" _ _ _ _ (List.mem_singleton.2 rfl) (.sort bare bare first) space
    bare bare
  have skip := @IsLink.intro _ "skip" _ _ _ _ (List.mem_singleton.2 rfl) (.skip five) feed space space
  have resort := @IsLink.intro _ "sort" _ _ _ _ (List.mem_singleton.2 rfl) (.sort space tab second) bare
    bare bare
  have toArray := @IsLink.intro .neutral "toArray" _ _ _ _ (by simp [Setting.methods]) (.neutral bare)
    bare bare bare
  have whole := @IsFind.intro "orders" _ _ _ _ _ _ (.projected filter fields)
    (.cons limit (.cons sort (.cons skip (.cons resort (.cons toArray .nil))))) ended
  refine Eq.mp (congrArg (IsFind _ _ _ _) ?_) whole
  decide +kernel

theorem ofText_find_orders : ofText 0 ordersText = .ok ⟨"orders", .aggregate
    [[("$match", .document [("a", .int 1)])], [("$sort", .document [("y", .int 1)])],
      [("$skip", .long 5)], [("$limit", .long 3)], [("$project", .document [("b", .int 1)])]]⟩ :=
  (ofText_find 0 (by decide) (Text.all_listed (by decide)) ordersText_find).1

end Inquiry.Query
