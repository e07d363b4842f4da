import Inquiry.Proofs.Query.Pass

/-!
What is written in the notation of the shell and then made strict is a strict text of the same
value, each regular expression being the object that stands for it.
-/
namespace Inquiry.Relaxed

open Json

def patternText (outer source options pattern flags : List Char) : List Char :=
  '\x7b' :: ([] ++ '"' :: (outer ++ ['"', ':']) ++ ' ' ::
    ('\x7b' :: ([] ++ '"' :: (source ++ ['"', ':']) ++ ' ' :: quoted pattern ++ ',' ::
      ([' '] ++ '"' :: (options ++ ['"', ':']) ++ ' ' :: ('"' :: (flags ++ ['"']))) ++ [] ++
    ['\x7d'])) ++ [] ++ ['\x7d'])

theorem patternText_eq (outer source options pattern flags : List Char) :
    patternText outer source options pattern flags =
      '\x7b' :: '"' :: (outer ++ ('"' :: ':' :: ' ' :: '\x7b' :: '"' :: (source ++ ['"', ':', ' ']))) ++
        quoted pattern ++ ',' :: ' ' :: '"' :: (options ++ ['"', ':', ' ', '"']) ++ flags ++
        ['"', '\x7d', '\x7d'] := by
  simp [patternText]

theorem patternObject_eq (pattern flags : List Char) : patternObject pattern flags =
    patternText "$regularExpression".toList "pattern".toList "options".toList pattern flags := by
  have parts {opening between closing : List Char}
      (first : "\x7b\"$regularExpression\": \x7b\"pattern\": ".toList = opening)
      (second : ", \"options\": \"".toList = between) (third : "\"\x7d\x7d".toList = closing) :
      patternObject pattern flags = opening ++ quoted pattern ++ between ++ flags ++ closing := by
    subst first second third
    rfl
  rw [patternText_eq]
  exact parts (by decide +kernel) (by decide +kernel) (by decide +kernel)

theorem prints_patternObject {pattern flags : List Char}
    (letters : ∀ c ∈ flags, c.isAlpha = true) :
    Prints .strict (.value (ofPattern pattern flags)) (patternObject pattern flags) := by
  have options : Prints .strict (.value (.text (String.ofList flags))) ('"' :: (flags ++ ['"'])) := by
    apply Prints.text
    apply Quoted.double
    rw [String.toList_ofList]
    exact spells_plain fun c member => alpha_plain (letters c member)
  have source : Prints .strict (.value (.text (String.ofList pattern))) (quoted pattern) := by
    apply Prints.text
    apply Quoted.double
    rw [String.toList_ofList]
    exact spells_escaped pattern
  have fields := Prints.object (.nextEntry (Label.plain "pattern" gap_nil (Text.all_listed (by decide)))
    source.spaced (.lastEntry (Label.plain "options" gap_space (Text.all_listed (by decide)))
      options.spaced)) (.inl rfl)
  have whole := Prints.object (.lastEntry
    (Label.plain "$regularExpression" gap_nil (Text.all_listed (by decide))) fields.spaced) (.inl rfl)
  rw [patternObject_eq]
  exact whole

section Numbers

variable {c : Char} {literal : List Char}

theorem number_parts (number : IsNumber literal) :
    ∀ c ∈ literal, c.isDigit = true ∨ c ∈ ['-', '+', '.', 'e', 'E'] := by
  have digits {numeral : List Char} (isNumeral : Decimal.isNumeral numeral = true) :
      ∀ c ∈ numeral, c.isDigit = true := (numeral_digit isNumeral).2
  obtain ⟨sign, whole, fraction, exponent, rfl, signed, isWhole, isFraction, isExponent⟩ := number
  intro c member
  simp only [List.mem_append] at member
  rcases member with ((member | member) | member) | member
  · rcases signed with rfl | rfl
    · cases member
    · exact .inr (by simpa using Or.inl member)
  · exact .inl (digits isWhole.1 c member)
  · rcases isFraction with rfl | ⟨numeral, rfl, isNumeral⟩
    · cases member
    · rcases List.mem_cons.1 member with rfl | member
      · exact .inr (by decide)
      · exact .inl (digits isNumeral c member)
  · rcases isExponent with rfl | ⟨mark, sign, numeral, rfl, marked, signed, isNumeral⟩
    · cases member
    · rcases List.mem_cons.1 member with rfl | member
      · rcases marked with rfl | rfl <;> exact .inr (by decide)
      · rcases List.mem_append.1 member with member | member
        · rcases signed with rfl | rfl | rfl
          · cases member
          all_goals
            rw [List.mem_singleton.1 member]
            exact .inr (by decide)
        · exact .inl (digits isNumeral c member)

theorem number_first (number : IsNumber literal) :
    ∃ first rest, literal = first :: rest ∧ (first.isDigit = true ∨ first = '-') := by
  obtain ⟨sign, whole, fraction, exponent, rfl, signed, isWhole, _, _⟩ := number
  obtain ⟨nonempty, digits⟩ := numeral_digit isWhole.1
  rcases signed with rfl | rfl
  · obtain ⟨first, rest, rfl⟩ := List.exists_cons_of_ne_nil nonempty
    exact ⟨first, rest ++ fraction ++ exponent, rfl, .inl (digits first List.mem_cons_self)⟩
  · exact ⟨'-', whole ++ fraction ++ exponent, rfl, .inr rfl⟩

theorem digit_part (digit : c.isDigit = true) : IsLiteralPart c ∧ isNameStart c = false := by
  have member := Text.digit_listed digit
  have all : ∀ c ∈ "0123456789".toList, IsLiteralPart c ∧ isNameStart c = false :=
    Text.all_listed (by decide)
  exact all c member

theorem number_literalParts (number : IsNumber literal) : ∀ c ∈ literal, IsLiteralPart c := by
  have signs : ∀ c ∈ ['-', '+', '.', 'e', 'E'], IsLiteralPart c := Text.all_listed (by decide)
  intro c member
  rcases number_parts number c member with digit | sign
  · exact (digit_part digit).1
  · exact signs c sign

end Numbers

/-- The text ends, blanks aside, in a character that no closing bracket takes away. -/
def EndsFirmly (text : List Char) : Prop :=
  ∃ front c gap, text = front ++ c :: gap ∧ IsGap gap ∧ Text.isWhitespace c = false ∧ c ≠ ','

section Ends

variable {text front rest out : List Char}

theorem endsFirmly_last {c : Char} (dark : Text.isWhitespace c = false) (other : c ≠ ',') :
    EndsFirmly (front ++ [c]) := ⟨front, c, [], rfl, gap_nil, dark, other⟩

theorem EndsFirmly.append (firm : EndsFirmly rest) : EndsFirmly (front ++ rest) := by
  obtain ⟨more, c, gap, rfl, blank, dark, other⟩ := firm
  exact ⟨front ++ more, c, gap, by simp, blank, dark, other⟩

theorem EndsFirmly.gap (firm : EndsFirmly text) {gap : List Char} (blank : IsGap gap) :
    EndsFirmly (text ++ gap) := by
  obtain ⟨front, c, inner, rfl, blankInner, dark, other⟩ := firm
  refine ⟨front, c, inner ++ gap, by simp, fun d member => ?_, dark, other⟩
  rcases List.mem_append.1 member with member | member
  · exact blankInner d member
  · exact blank d member

theorem dropWhile_gap {gap : List Char} (blank : IsGap gap) :
    (gap.reverse ++ out).dropWhile Text.isWhitespace = out.dropWhile Text.isWhitespace := by
  apply List.dropWhile_append_of_pos
  intro c member
  exact blank_space (blank c (List.mem_reverse.1 member))

theorem EndsFirmly.dropComma (firm : EndsFirmly text) :
    dropComma (text.reverse ++ out) = text.reverse ++ out := by
  obtain ⟨front, c, gap, rfl, blank, dark, other⟩ := firm
  have shape : (front ++ c :: gap).reverse ++ out = gap.reverse ++ c :: (front.reverse ++ out) := by
    simp
  rw [Relaxed.dropComma, shape, dropWhile_gap blank, List.dropWhile_cons, dark]
  simp [other]

theorem dropComma_gap {gap : List Char} (blank : IsGap gap) :
    dropComma (gap.reverse ++ ',' :: out) = out := by
  have dark : Text.isWhitespace ',' = false := by decide
  rw [dropComma, dropWhile_gap blank, List.dropWhile_cons, dark]
  rfl

theorem strict_endsFirmly {phrase : Phrase} (prints : Prints .strict phrase text) :
    EndsFirmly text := by
  have close {front : List Char} {c : Char} (closer : c = '"' ∨ c = ']' ∨ c = '\x7d') :
      EndsFirmly (front ++ [c]) := by
    rcases closer with rfl | rfl | rfl <;> exact endsFirmly_last (by decide) (by decide)
  induction prints with
  | null => exact @endsFirmly_last ['n', 'u', 'l'] 'l' (by decide) (by decide)
  | yes => exact @endsFirmly_last ['t', 'r', 'u'] 'e' (by decide) (by decide)
  | no => exact @endsFirmly_last ['f', 'a', 'l', 's'] 'e' (by decide) (by decide)
  | @number literal number inRange =>
    obtain ⟨first, rest, shape, _⟩ := number_first number
    have nonempty : literal ≠ [] := by simp [shape]
    obtain ⟨_, comma, _, dark⟩ := number_literalParts number _ (List.getLast_mem nonempty)
    rw [← List.dropLast_concat_getLast nonempty]
    exact endsFirmly_last dark comma
  | text quoted =>
    cases quoted with
    | single shell => cases shell
    | @double body => exact @close ('"' :: body) '"' (.inl rfl)
  | @noItems gap => exact @close ('[' :: gap) ']' (.inr (.inl rfl))
  | @list items body tail => exact @close ('[' :: (body ++ tail)) ']' (.inr (.inl rfl))
  | @noEntries gap => exact @close ('\x7b' :: gap) '\x7d' (.inr (.inr rfl))
  | @object entries body tail => exact @close ('\x7b' :: (body ++ tail)) '\x7d' (.inr (.inr rfl))
  | plain inner ih => exact ih
  | pattern shell => cases shell
  | member blankBefore blankAfter inner ih => exact ih.append.gap blankAfter
  | lastItem inner ih => exact ih
  | @nextItem item items text rest inner more ih ihMore =>
    exact (@EndsFirmly.append [','] rest ihMore).append
  | lastEntry labelled inner ih => exact ih.append
  | @nextEntry name value entries label text rest labelled inner more ih ihMore =>
    exact (@EndsFirmly.append [','] rest ihMore).append

end Ends

def FitsAfter (last : Option Char) : Phrase → Prop
  | .value _ => True
  | .element _ | .member _ | .items _ => startsPattern last = true
  | .entries _ => startsKey last = true

/-- The pass turns the one text into the other, wherever the phrase is in its place. -/
def Rewrites (phrase : Phrase) (text strict : List Char) : Prop :=
  ∀ last out, FitsAfter last phrase →
    ∃ next, Settled (text.foldl step ⟨.plain, last, out⟩) next (strict.reverse ++ out)

section Rewriting

variable {phrase : Phrase} {text strict : List Char}

theorem rewrites_word {value : Json} {first : Char} {rest : List Char}
    (parts : ∀ c ∈ first :: rest, IsLiteralPart c)
    (named : isNameStart first = true → ∀ c ∈ rest, isNamePart c = true) :
    Rewrites (.value value) (first :: rest) (first :: rest) :=
  fun _ _ _ => after_literal parts named

/-- A list or an object whose members have been rewritten, the last comma left out. -/
theorem rewrites_closed {inner : Phrase} {value : Json} {opener closer : Char}
    {body tail strict : List Char} (opens : opener = '[' ∨ opener = '\x7b')
    (closes : closer = ']' ∨ closer = '\x7d') (fits : FitsAfter (some opener) inner)
    (closed : IsTail .shell tail) (firm : EndsFirmly strict) (rewrites : Rewrites inner body strict) :
    Rewrites (.value value) (opener :: (body ++ tail ++ [closer]))
      (opener :: (strict ++ [] ++ [closer])) := by
  intro last out _
  have begun : step ⟨.plain, last, out⟩ opener = ⟨.plain, some opener, opener :: out⟩ :=
    plainStep_sign (.inr (.inr opens))
  obtain ⟨next, settled⟩ := rewrites (some opener) (opener :: out) fits
  have ended {before : Option Char} {more : List Char} {pass : Pass}
      (settled : Settled pass before more) (kept : dropComma more = strict.reverse ++ opener :: out) :
      Settled (step pass closer) (some closer) ((opener :: (strict ++ [] ++ [closer])).reverse ++ out) := by
    have mark : IsMark closer := .inr closes
    rw [settled.step_mark mark, plainStep_close closes, kept]
    simpa using Settled.plain (some closer) (closer :: (strict.reverse ++ opener :: out))
  rw [List.foldl_cons, begun, List.foldl_append, List.foldl_append]
  refine ⟨some closer, ?_⟩
  rcases closed with rfl | ⟨_, gap, rfl, blank⟩
  · exact ended settled firm.dropComma
  · have comma : (',' :: gap).foldl step (body.foldl step ⟨.plain, some opener, opener :: out⟩) =
        ⟨.plain, some ',', gap.reverse ++ ',' :: (strict.reverse ++ opener :: out)⟩ := by
      rw [List.foldl_cons, settled.step_mark (.inl rfl), plainStep_sign (.inl rfl), plain_gap blank]
    rw [comma]
    exact ended (.plain _ _) (dropComma_gap blank)

theorem rewrites_empty {value : Json} {opener closer : Char} {gap : List Char}
    (opens : opener = '[' ∨ opener = '\x7b') (closes : closer = ']' ∨ closer = '\x7d')
    (blank : IsGap gap) :
    Rewrites (.value value) (opener :: (gap ++ [closer])) (opener :: (gap ++ [closer])) := by
  intro last out _
  have firm : EndsFirmly ([] ++ [opener] ++ gap) := by
    refine EndsFirmly.gap ?_ blank
    rcases opens with rfl | rfl <;> exact endsFirmly_last (by decide) (by decide)
  have kept := @EndsFirmly.dropComma _ out firm
  have begun : step ⟨.plain, last, out⟩ opener = ⟨.plain, some opener, opener :: out⟩ :=
    plainStep_sign (.inr (.inr opens))
  rw [List.foldl_cons, begun, List.foldl_append, plain_gap blank, List.foldl_cons, List.foldl_nil,
    step, plainStep_close closes]
  have same : gap.reverse ++ opener :: out = ([] ++ [opener] ++ gap).reverse ++ out := by simp
  have text : (opener :: (gap ++ [closer])).reverse ++ out =
      closer :: (gap.reverse ++ opener :: out) := by simp
  rw [same, kept, ← same, text]
  exact ⟨some closer, .plain _ _⟩

theorem Rewrites.member {value : Json} {before after : List Char}
    (rewrites : Rewrites (.element value) text strict) (blankBefore : IsGap before)
    (blankAfter : IsGap after) :
    Rewrites (.member value) (before ++ text ++ after) (before ++ strict ++ after) := by
  intro last out fits
  obtain ⟨next, settled⟩ := rewrites last (before.reverse ++ out) fits
  refine ⟨next, ?_⟩
  rw [List.foldl_append, List.foldl_append, plain_gap blankBefore]
  simpa using settled.after_gap blankAfter

/-- A comma leaves the pass where another member can begin. -/
theorem Rewrites.comma {next : Phrase} {rest more : List Char}
    (rewrites : Rewrites phrase text strict) (follows : Rewrites next rest more)
    (fits : FitsAfter (some ',') next) {last : Option Char} (place : FitsAfter last phrase)
    (out : List Char) :
    ∃ final, Settled ((text ++ ',' :: rest).foldl step ⟨.plain, last, out⟩) final
      ((strict ++ ',' :: more).reverse ++ out) := by
  obtain ⟨before, settled⟩ := rewrites last out place
  obtain ⟨final, finished⟩ := follows (some ',') (',' :: (strict.reverse ++ out)) fits
  refine ⟨final, ?_⟩
  rw [List.foldl_append, List.foldl_cons, settled.step_mark (.inl rfl), plainStep_sign (.inl rfl)]
  simpa using finished

/-- Every way to write a phrase in the notation of the shell is rewritten into strict JSON. -/
theorem shell_rewritten (prints : Prints .shell phrase text) :
    ∃ strict, Prints .strict phrase strict ∧ Rewrites phrase text strict := by
  -- By how the text is printed: each part leaves a settled pass, which the next one can take up.
  induction prints with
  | null => exact ⟨_, .null, @rewrites_word _ 'n' ['u', 'l', 'l'] (Text.all_listed (by decide)) fun _ =>
      Text.all_listed (by decide)⟩
  | yes => exact ⟨_, .yes, @rewrites_word _ 't' ['r', 'u', 'e'] (Text.all_listed (by decide)) fun _ =>
      Text.all_listed (by decide)⟩
  | no => exact ⟨_, .no, @rewrites_word _ 'f' ['a', 'l', 's', 'e'] (Text.all_listed (by decide)) fun _ =>
      Text.all_listed (by decide)⟩
  | @number literal number inRange =>
    refine ⟨_, .number number inRange, ?_⟩
    obtain ⟨first, rest, rfl, begun⟩ := number_first number
    have noName : isNameStart first = false := by
      rcases begun with digit | rfl
      · exact (digit_part digit).2
      · decide
    exact rewrites_word (number_literalParts number) (by simp [noName])
  | text quoted =>
    obtain ⟨strict, same, run⟩ := after_quoted quoted
    refine ⟨_, .text same, fun last out _ => ?_⟩
    rw [run]
    exact ⟨_, .plain _ _⟩
  | noItems blank => exact ⟨_, .noItems blank, rewrites_empty (.inl rfl) (.inl rfl) blank⟩
  | @list items body tail inner closed ih =>
    obtain ⟨strict, same, rewrites⟩ := ih
    have fits : FitsAfter (some '[') (.items items) := rfl
    exact ⟨_, .list same (.inl rfl),
      rewrites_closed (.inl rfl) (.inl rfl) fits closed (strict_endsFirmly same) rewrites⟩
  | noEntries blank => exact ⟨_, .noEntries blank, rewrites_empty (.inr rfl) (.inr rfl) blank⟩
  | @object entries body tail inner closed ih =>
    obtain ⟨strict, same, rewrites⟩ := ih
    have fits : FitsAfter (some '\x7b') (.entries entries) := rfl
    exact ⟨_, .object same (.inl rfl),
      rewrites_closed (.inr rfl) (.inr rfl) fits closed (strict_endsFirmly same) rewrites⟩
  | plain inner ih =>
    obtain ⟨strict, same, rewrites⟩ := ih
    exact ⟨strict, .plain same, fun last out _ => rewrites last out trivial⟩
  | @pattern pattern flags shell source letters =>
    refine ⟨_, .plain (prints_patternObject letters), fun last out starts => ?_⟩
    rw [after_pattern source letters starts]
    have settled := Settled.flags pattern.reverse flags.reverse last out
    simp only [withPattern, List.reverse_reverse] at settled
    exact ⟨_, settled⟩
  | member blankBefore blankAfter inner ih =>
    obtain ⟨strict, same, rewrites⟩ := ih
    exact ⟨_, .member blankBefore blankAfter same, rewrites.member blankBefore blankAfter⟩
  | lastItem inner ih =>
    obtain ⟨strict, same, rewrites⟩ := ih
    exact ⟨strict, .lastItem same, rewrites⟩
  | nextItem inner more ih ihMore =>
    obtain ⟨strict, same, rewrites⟩ := ih
    obtain ⟨rest, sameMore, follows⟩ := ihMore
    exact ⟨_, .nextItem same sameMore, fun last out starts => rewrites.comma follows rfl starts out⟩
  | @lastEntry name value label text labelled inner ih =>
    obtain ⟨strict, same, rewrites⟩ := ih
    obtain ⟨strictLabel, sameLabel, labels⟩ := after_label labelled
    refine ⟨_, .lastEntry sameLabel same, fun last out key => ?_⟩
    obtain ⟨next, settled⟩ := rewrites (some ':') (strictLabel.reverse ++ out) rfl
    rw [List.foldl_append, labels last out key]
    exact ⟨next, by simpa using settled⟩
  | @nextEntry name value entries label text rest labelled inner more ih ihMore =>
    obtain ⟨strict, same, rewrites⟩ := ih
    obtain ⟨strictRest, sameMore, follows⟩ := ihMore
    obtain ⟨strictLabel, sameLabel, labels⟩ := after_label labelled
    refine ⟨_, .nextEntry sameLabel same sameMore, fun last out key => ?_⟩
    have fits : FitsAfter (some ':') (.member value) := rfl
    obtain ⟨next, settled⟩ := rewrites.comma follows rfl fits (strictLabel.reverse ++ out)
    rw [List.append_assoc, List.foldl_append, labels last out key]
    exact ⟨next, by simpa using settled⟩

end Rewriting

/-- A text in the notation of the shell, made strict, is a strict text of the same value, and is
read as that value as long as its nesting stays within the limit. -/
theorem strict_shell {value : Json} {text : List Char} (isText : IsText .shell value text)
    (shallow : value.depth ≤ maxDepth) :
    IsText .strict value (strict text) ∧ Json.read (strict text) = .ok value := by
  obtain ⟨before, body, after, rfl, blankBefore, blankAfter, prints⟩ := isText
  obtain ⟨out, same, rewrites⟩ := shell_rewritten prints
  obtain ⟨next, settled⟩ := rewrites none before.reverse trivial
  have finished := (settled.after_gap blankAfter).finish
  have made : strict (before ++ body ++ after) = before ++ out ++ after := by
    rw [strict, List.foldl_append, List.foldl_append, plain_gap blankBefore, List.append_nil,
      finished]
    simp
  have isStrict : IsText .strict value (strict (before ++ body ++ after)) :=
    ⟨before, out, after, made, blankBefore, blankAfter, same⟩
  exact ⟨isStrict, isStrict.read shallow⟩

def shellText : List Char :=
  "\x7b $or : [\x7b'it\\'s' :/a\\/b/i, \x7d, -12 , \"\\u00e9/[\" , ] ,\x7d".toList

def shellValue : Json :=
  .object [("$or", .list [.object [("it's", ofPattern ['a', '\\', '/', 'b'] ['i'])],
    .number (.integer (-12)), .text "\u00e9/["])]

theorem strict_shellText : IsText .shell shellValue shellText ∧ shellValue.depth ≤ maxDepth ∧
    Json.read (strict shellText) = .ok shellValue := by
  have gap (n : Nat) : IsGap (List.replicate n ' ') := by
    intro c member
    rw [List.eq_of_mem_replicate member]
    rfl
  have apostrophe : Spells '\'' "it's".toList ['i', 't', '\\', '\'', 's'] :=
    .plain (by decide) (by decide) (by decide) (.plain (by decide) (by decide) (by decide)
      (.apostrophe rfl (.plain (by decide) (by decide) (by decide) .nil)))
  have accent : Spells '"' "\u00e9/[".toList ['\\', 'u', '0', '0', 'e', '9', '/', '['] :=
    .unit ⟨'0', '0', 'e', '9', rfl, 0, 0, 14, 9, rfl, rfl, rfl, rfl, rfl⟩
      (.plain (by decide) (by decide) (by decide) (.plain (by decide) (by decide) (by decide) .nil))
  have source : IsPattern ['a', '\\', '/', 'b'] :=
    .plain (by decide) (by decide) (.escaped (.plain (by decide) (by decide) .nil))
  have number : IsNumber ['-', '1', '2'] :=
    ⟨['-'], ['1', '2'], [], [], rfl, .inr rfl, by simp [IsWhole, Decimal.isNumeral], .inl rfl,
      .inl rfl⟩
  have meant : Number.ofLiteral? ['-', '1', '2'] = some (.integer (-12)) := rfl
  have bare : IsBareKey "$or".toList := ⟨.inr (.inr rfl), Text.all_listed (by decide)⟩
  have pattern := @Prints.pattern .shell _ ['i'] rfl source (Text.all_listed (by decide))
  have first := Prints.plain (.object (.lastEntry
    (.intro (gap 0) (gap 1) (.quoted (.single rfl apostrophe))) (.member (gap 0) (gap 0) pattern))
    (.inr ⟨rfl, [' '], rfl, gap 1⟩))
  have second := Prints.plain (@Prints.number .shell _ number (by simp [meant]))
  have third := Prints.plain (.text (@Quoted.double .shell _ _ accent))
  have items := Prints.nextItem (.member (gap 0) (gap 0) first)
    (.nextItem (.member (gap 1) (gap 1) second) (.lastItem (.member (gap 1) (gap 1) third)))
  have whole := Prints.object (.lastEntry (.intro (gap 1) (gap 1) (.bare rfl bare))
    (.member (gap 1) (gap 1) (.plain (.list items (.inr ⟨rfl, [' '], rfl, gap 1⟩)))))
    (.inr ⟨rfl, [], rfl, gap 0⟩)
  have isText : IsText .shell shellValue shellText := by
    refine ⟨[], _, [], ?_, gap 0, gap 0, whole⟩
    decide +kernel
  have shallow : shellValue.depth ≤ maxDepth := by decide
  exact ⟨isText, shallow, (strict_shell isText shallow).2⟩

end Inquiry.Relaxed
