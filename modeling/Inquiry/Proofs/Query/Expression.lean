import Inquiry.Proofs.Bson.Extended
import Inquiry.Proofs.Query.Invocation
import Inquiry.Proofs.Query.Relaxed
import Inquiry.Proofs.Query.Search
import Inquiry.Proofs.Query.ValueCall
import Mathlib

/-!
A filter with one regular expression between slashes. The searches for brackets know strings and
no expressions, so the expression is read as it stands exactly when its own quotes, brackets and
commas mislead neither of them; all others are faults.
-/
namespace Inquiry.Bracket

def Search.Ignores (search : Search) (c : Char) : Prop :=
  ∀ quote depth, search.ends quote depth c = false ∧ search.depth quote depth c = depth

/-- Inside an object the text leaves both searches where they were, or the second one deeper. -/
def Passable (text : List Char) : Prop :=
  groupSearch.after? .outside 0 text = some (.outside, 0) ∧
    ∃ depth, argumentSearch.after? .outside 1 text = some (.outside, depth + 1)

def Quote.IsMarked : Quote → Prop
  | .outside => True
  | .inside mark | .escaped mark => isQuote mark = true

section Quiet

variable {search : Search} {quote : Quote} {depth : Nat} {text : List Char} {c : Char}

theorem after_ignored (ignored : ∀ c ∈ text, search.Ignores c) :
    search.after? quote depth text = some (text.foldl Quote.next quote, depth) := by
  induction text generalizing quote with
  | nil => rfl
  | cons c text ih =>
    obtain ⟨goesOn, same⟩ := ignored c List.mem_cons_self quote depth
    rw [after_cons goesOn, same, List.foldl_cons]
    exact ih fun d member => ignored d (List.mem_cons_of_mem _ member)

theorem groupSearch_quiet (quiet : Quiet c) : groupSearch.Ignores c := by
  obtain ⟨_, opening, closing, _⟩ := quiet
  have noOpening : isOpening c = false := by
    simp only [opens, Bool.or_eq_false_iff] at opening
    simp [isOpening, opening]
  have noClosing : isClosing c = false := by
    simp only [closes, Bool.or_eq_false_iff] at closing
    simp [isClosing, closing]
  intro quote depth
  simp [groupSearch, groupDepth, noOpening, noClosing]

theorem argumentSearch_quiet (quiet : Quiet c) : argumentSearch.Ignores c := by
  obtain ⟨_, opening, closing, comma⟩ := quiet
  intro quote depth
  simp [argumentSearch, depthAfter, opening, closing, comma]

theorem foldl_quiet (quiet : ∀ c ∈ text, Quiet c) : text.foldl Quote.next .outside = .outside := by
  induction text with
  | nil => rfl
  | cons c text ih =>
    rw [List.foldl_cons, next_quiet (quiet c List.mem_cons_self)]
    exact ih fun d member => quiet d (List.mem_cons_of_mem _ member)

theorem Quote.IsMarked.next (marked : quote.IsMarked) : (quote.next c).IsMarked := by
  cases quote with
  | outside =>
    rw [Quote.next]
    split
    next quote => exact quote
    next => trivial
  | inside mark =>
    rw [Quote.next]
    split
    next => exact marked
    next =>
      split
      next => trivial
      next => exact marked
  | escaped mark => exact marked

theorem marked_foldl (marked : quote.IsMarked) : (text.foldl Quote.next quote).IsMarked := by
  induction text generalizing quote with
  | nil => exact marked
  | cons c text ih => exact ih marked.next

/-- What is no quote leads out of no string. -/
theorem quiet_outside (marked : quote.IsMarked) (quiet : ∀ c ∈ text, Quiet c)
    (outside : text.foldl Quote.next quote = .outside) : quote = .outside := by
  induction text generalizing quote with
  | nil => exact outside
  | cons c text ih =>
    have next : quote.next c = .outside :=
      ih marked.next (fun d member => quiet d (List.mem_cons_of_mem _ member)) outside
    cases quote with
    | outside => rfl
    | escaped mark => cases next
    | inside mark =>
      have other : c ≠ mark := by
        rintro rfl
        have noQuote := (quiet c List.mem_cons_self).1
        rw [marked] at noQuote
        cases noQuote
      simp only [Quote.next, beq_iff_eq, other, if_false] at next
      split at next <;> cases next

end Quiet

def around (lead text trail : List Char) : List Char :=
  '\x7b' :: (lead ++ (text ++ (trail ++ ['\x7d'])))

section Objects

variable {lead text trail : List Char} {after : Quote} {inner : Nat}

theorem around_append (lead text trail rest : List Char) : around lead text trail ++ rest =
    '\x7b' :: (lead ++ (text ++ (trail ++ '\x7d' :: rest))) := by simp [around]

theorem group_begun (rest : List Char) : group? '\x7b' ('\x7b' :: rest) =
    match groupTail? .outside 0 rest with
    | some tail => .ok (some ('\x7b' :: tail))
    | none => .error (.unbalanced '\x7b') := rfl

theorem passable_group (quietLead : ∀ c ∈ lead, Quiet c) (quietTrail : ∀ c ∈ trail, Quiet c)
    (passable : Passable text) (rest : List Char) :
    group? '\x7b' (around lead text trail ++ rest) = .ok (some (around lead text trail)) := by
  have led : groupSearch.after? .outside 0 lead = some (.outside, 0) := by
    rw [after_ignored fun c member => groupSearch_quiet (quietLead c member), foldl_quiet quietLead]
  have trailed : groupSearch.after? .outside 0 trail = some (.outside, 0) := by
    rw [after_ignored fun c member => groupSearch_quiet (quietTrail c member), foldl_quiet quietTrail]
  have tail : groupTail? .outside 0 (lead ++ (text ++ (trail ++ '\x7d' :: rest))) =
      some (lead ++ (text ++ (trail ++ ['\x7d']))) := by
    rw [groupTail_on led, groupTail_on passable.1, groupTail_on trailed, groupTail_end rfl]
    rfl
  rw [around_append, group_begun, tail]
  rfl

/-- The whole object is the only argument, with the end of the text where the call is not closed. -/
theorem passable_arguments (quietLead : ∀ c ∈ lead, Quiet c) (quietTrail : ∀ c ∈ trail, Quiet c)
    (passable : Passable text) : ∃ rest, (rest = [')'] ∧
        closeCall? (around lead text trail ++ [')']) = none ∨
      rest = [] ∧ closeCall? (around lead text trail ++ [')']) = some (around lead text trail, [])) ∧
      arguments (around lead text trail ++ rest) = [around lead text trail ++ rest] := by
  obtain ⟨_, depth, stands⟩ := passable
  have led : argumentSearch.after? .outside 1 lead = some (.outside, 1) := by
    rw [after_ignored fun c member => argumentSearch_quiet (quietLead c member), foldl_quiet quietLead]
  have trailed : argumentSearch.after? .outside (depth + 1) trail = some (.outside, depth + 1) := by
    rw [after_ignored fun c member => argumentSearch_quiet (quietTrail c member),
      foldl_quiet quietTrail]
  have passed (rest : List Char) : argumentSearch.after? .outside 0 (around lead text trail ++ rest) =
      argumentSearch.after? .outside depth rest := by
    rw [around_append, after_cons rfl]
    change argumentSearch.after? .outside 1 _ = _
    rw [after_on led, after_on stands, after_on trailed, after_cons rfl]
    rfl
  have visible (rest : List Char) : isBlank (around lead text trail ++ rest) = false := by
    have brace : Text.isWhitespace '\x7b' = false := by decide
    simp [isBlank, around, brace]
  have whole := passed []
  rw [List.append_nil] at whole
  cases depth with
  | zero =>
    refine ⟨[], .inr ⟨rfl, ?_⟩, ?_⟩
    · rw [closeCall?, splitClose_on whole]
      simp [splitClose, Quote.sees, isQuote, closes]
    · rw [arguments, List.append_nil, pieces_whole whole]
      simpa using visible []
  | succ depth =>
    refine ⟨[')'], .inl ⟨rfl, ?_⟩, ?_⟩
    · rw [closeCall?, splitClose_on whole]
      rfl
    · rw [arguments, pieces_whole (passed [')'])]
      simpa using visible [')']

/-- A group that ends with the object is one that the text inside has not misled. -/
theorem whole_passable {rest : List Char} {place : Quote × Nat}
    (quietLead : ∀ c ∈ lead, Quiet c) (quietTrail : ∀ c ∈ trail, Quiet c)
    (grouped : groupSearch.after? .outside 0 (lead ++ (text ++ trail)) = some (.outside, 0))
    (argued : argumentSearch.after? .outside 0 (around lead text trail ++ rest) = some place) :
    Passable text := by
  rw [after_on (after_ignored fun c member => groupSearch_quiet (quietLead c member)),
    foldl_quiet quietLead] at grouped
  obtain ⟨after, inner, stands, trailed⟩ := after_within grouped
  rw [after_ignored fun c member => groupSearch_quiet (quietTrail c member)] at trailed
  obtain ⟨back, rfl⟩ : trail.foldl Quote.next after = .outside ∧ inner = 0 := by
    simpa using trailed
  have quote := after_quote stands
  have marked : after.IsMarked := by
    rw [quote]
    exact marked_foldl trivial
  obtain rfl : after = .outside := quiet_outside marked quietTrail back
  refine ⟨stands, ?_⟩
  rw [around_append, after_cons rfl] at argued
  change argumentSearch.after? .outside 1 _ = _ at argued
  rw [after_on (after_ignored fun c member => argumentSearch_quiet (quietLead c member)),
    foldl_quiet quietLead] at argued
  obtain ⟨other, depth, passed, argued⟩ := after_within argued
  obtain rfl : other = .outside := (after_quote passed).trans quote.symm
  rw [after_on (after_ignored fun c member => argumentSearch_quiet (quietTrail c member)),
    foldl_quiet quietTrail] at argued
  cases depth with
  | zero => cases argued
  | succ depth => exact ⟨depth, passed⟩

/-- The first argument is what the search for its end passes over. -/
theorem first_argument {c : Char} (begins : argumentSearch.ends .outside 0 c = false)
    (rest : List Char) : ∃ first others back,
      pieces .outside 0 (untilClose .outside 0 (c :: rest)) = (c :: first) :: others ∧
        rest = first ++ back ∧ ∃ place, argumentSearch.after? .outside 0 (c :: first) = some place := by
  cases stands : argumentSearch.after? .outside 0 (c :: rest) with
  | some place =>
    have unclosed := @splitClose_on _ _ _ _ (c :: rest) [] stands
    rw [List.append_nil, splitClose, Option.map_none] at unclosed
    refine ⟨rest, [], [], ?_, by simp, place, stands⟩
    rw [untilClose, unclosed]
    exact pieces_whole stands
  | none =>
    obtain ⟨front, d, back, after, inner, shape, passed, ends⟩ := after_ended stands
    obtain ⟨others, found⟩ := @pieces_first _ _ _ _ front d back passed ends
    cases front with
    | nil =>
      cases passed
      rw [← (List.cons.inj shape).1, begins] at ends
      cases ends
    | cons e first =>
      obtain ⟨rfl, rfl⟩ := List.cons.inj shape
      exact ⟨first, others, d :: back, found, rfl, _, passed⟩

/-- Where the text misleads a search, the first argument has no group or one that is cut off in it. -/
theorem misled_group (quietLead : ∀ c ∈ lead, Quiet c) (quietTrail : ∀ c ∈ trail, Quiet c)
    (misled : ¬ Passable text) : ∃ first others,
      arguments (untilClose .outside 0 (around lead text trail ++ [')'])) = first :: others ∧
      (group? '\x7b' first = .error (.unbalanced '\x7b') ∨ ∃ front back, text = front ++ back ∧
        group? '\x7b' first = .ok (some ('\x7b' :: (lead ++ front)))) := by
  have quiet {c : Char} (closing : isClosing c = true) : ¬ Quiet c := by
    intro quiet
    have noClosing := quiet.2.2.1
    simp only [isClosing, Bool.or_eq_true, beq_iff_eq] at closing
    rcases closing with rfl | rfl <;> cases noClosing
  have visible : Text.isWhitespace '\x7b' = false := by decide
  obtain ⟨first, others, back, found, shape, place, argued⟩ :=
    @first_argument '\x7b' rfl (lead ++ (text ++ (trail ++ ['\x7d', ')'])))
  refine ⟨'\x7b' :: first, others.filter fun piece => !isBlank piece, ?_, ?_⟩
  · rw [around_append, arguments, found, List.filter_cons_of_pos (by simp [isBlank, visible])]
  rw [group_begun]
  cases tail : groupTail? .outside 0 first with
  | none => exact .inl rfl
  | some group =>
    obtain ⟨front, c, rest, after, inner, rfl, rfl, stands, ends⟩ := groupTail_found.1 tail
    simp only [groupSearch, Bool.and_eq_true, beq_iff_eq] at ends
    obtain ⟨⟨sees, closing⟩, rfl⟩ := ends
    obtain rfl := (sees_outside sees).1
    rw [List.append_assoc, List.cons_append] at shape
    -- The bracket that ends the group stands in the text, or it is the one that ends the object.
    rcases Text.split_middle shape.symm with ⟨more, leadShape⟩ | ⟨inText, rfl, pastLead⟩
    · exact absurd (quietLead c (by simp [leadShape])) (quiet closing)
    rcases Text.split_middle pastLead.symm with ⟨more, textShape⟩ | ⟨inTrail, rfl, pastText⟩
    · refine .inr ⟨inText ++ [c], more, by simp [textShape], ?_⟩
      simp
    rcases Text.split_middle pastText.symm with ⟨more, trailShape⟩ | ⟨atEnd, rfl, pastTrail⟩
    · exact absurd (quietTrail c (by simp [trailShape])) (quiet closing)
    cases atEnd with
    | nil =>
      obtain ⟨rfl, _⟩ := List.cons.inj pastTrail
      rw [List.append_nil] at stands argued
      have object : argumentSearch.after? .outside 0 (around lead text trail ++ rest) = some place := by
        rw [around_append]
        simpa using argued
      exact absurd (whole_passable quietLead quietTrail stands object) misled
    | cons d atEnd =>
      have last := (List.cons.inj pastTrail).2
      cases atEnd with
      | nil =>
        obtain ⟨rfl, _⟩ := List.cons.inj last
        cases closing
      | cons e atEnd => simp at last

end Objects

end Inquiry.Bracket

namespace Inquiry.Query

open Json Inquiry.Bracket Inquiry.Relaxed Inquiry.ValueCall

theorem namePart_quiet {c : Char} (part : isNamePart c = true) : Quiet c := by
  have plain : ∀ c ∈ "\"'(\x7b[)\x7d],".toList, isNamePart c = false := Text.all_listed (by decide)
  refine quiet_unlisted fun listed => ?_
  rw [plain c listed] at part
  cases part

/-- A pattern that is cut off is closed where it ends. -/
theorem finish_cut {pattern seen front back out : List Char} {last : Option Char}
    (source : IsPattern pattern) (cut : pattern = front ++ back) :
    ∃ kept, (front.foldl step ⟨.pattern seen, last, out⟩).finish = withPattern kept [] out := by
  induction source generalizing front seen with
  | nil =>
    rw [(List.append_eq_nil_iff.1 cut.symm).1]
    exact ⟨seen, rfl⟩
  | @plain c rest inside unescaped more ih =>
    cases front with
    | nil => exact ⟨seen, rfl⟩
    | cons d front =>
      obtain ⟨rfl, further⟩ := List.cons.inj cut
      have kept : step ⟨.pattern seen, last, out⟩ c = ⟨.pattern (c :: seen), last, out⟩ := by
        simp [step, inside, unescaped]
      rw [List.foldl_cons, kept]
      exact ih further
  | @escaped c rest more ih =>
    cases front with
    | nil => exact ⟨seen, rfl⟩
    | cons d front =>
      obtain ⟨rfl, afterMark⟩ := List.cons.inj cut
      cases front with
      | nil => exact ⟨'\\' :: seen, rfl⟩
      | cons e front =>
        obtain ⟨rfl, further⟩ := List.cons.inj afterMark
        change ∃ kept, (front.foldl step ⟨.pattern (c :: '\\' :: seen), last, out⟩).finish = _
        exact ih further

/-- A value inside a container is not the end of a text. -/
theorem holds_open {limits : Limits} {reader : Reader} {value known : Json} {frame : Frame}
    {stack : List Frame} (holds : reader.Holds value (frame :: stack)) :
    reader.finish limits ≠ .ok known := by
  intro finished
  rcases finish_inv finished with same | ⟨part, seen, literal, taken⟩
  · rw [same] at holds
    cases holds
  · cases holds with
    | taken => cases literal
    | number orClose stack complete inRange =>
      cases literal
      rw [inNumber, take_number inRange] at taken
      cases taken

theorem bare_unread {c : Char} {rest : List Char} {known : Json} (start : isNameStart c = true) :
    Json.read ('\x7b' :: c :: rest) ≠ .ok known := by
  intro read
  obtain ⟨opened, opens, accepts⟩ := Reader.accepts_cons.1 (read_ok.1 read)
  obtain rfl : opened = ⟨none, .field true [] []⟩ := (Except.ok.inj opens).symm
  obtain ⟨next, stepped, _⟩ := Reader.accepts_cons.1 accepts
  have move : Move (.field true [] []) c next := @step_move .usual _ _ _ stepped
  cases move with
  | blank state blank =>
    have part := nameStart_part start
    rw [blank_namePart blank] at part
    cases part
  | key => exact absurd start (by decide)
  | closeEmptyObject => exact absurd start (by decide)

section Filters

variable {key pattern flags : List Char} {now : Int}

def before (key : List Char) : List Char := key ++ [':', ' ', '/']

theorem before_quiet (bare : IsBareKey key) : ∀ c ∈ before key, Quiet c := by
  obtain ⟨first, rest, rfl, start, parts⟩ := bareKey_parts bare
  intro c member
  rcases List.mem_append.1 member with name | sign
  · rcases List.mem_cons.1 name with rfl | part
    · exact namePart_quiet (nameStart_part start)
    · exact namePart_quiet (parts c part)
  · have signs : ∀ c ∈ [':', ' ', '/'], Quiet c := Text.all_listed (by decide)
    exact signs c sign

theorem flags_quiet (letters : ∀ c ∈ flags, c.isAlpha = true) : ∀ c ∈ '/' :: flags, Quiet c := by
  intro c member
  rcases List.mem_cons.1 member with rfl | letter
  · decide
  · exact alpha_quiet (letters c letter)

theorem label_bare (bare : IsBareKey key) : Label .shell (String.ofList key) (key ++ [':']) := by
  have label := @Label.intro .shell (String.ofList key) [] _ [] gap_nil gap_nil
    (.bare rfl (by rwa [String.toList_ofList]))
  simpa using label

theorem isText_expression (bare : IsBareKey key) (source : IsPattern pattern)
    (letters : ∀ c ∈ flags, c.isAlpha = true) :
    IsText .shell (.object [(String.ofList key, ofPattern pattern flags)])
      (around (before key) pattern ('/' :: flags)) := by
  have member := @Prints.member .shell _ [' '] _ [] gap_space gap_nil (.pattern rfl source letters)
  have object := Prints.object (.lastEntry (label_bare bare) member) (.inl rfl)
  refine ⟨[], _, [], ?_, gap_nil, gap_nil, object⟩
  simp [around, before]

theorem label_unopened (bare : IsBareKey key) : '(' ∉ '\x7b' :: (key ++ [':', ' ']) := by
  obtain ⟨first, rest, rfl, start, parts⟩ := bareKey_parts bare
  intro member
  simp only [List.cons_append, List.mem_cons, List.mem_append, List.not_mem_nil, or_false] at member
  rcases member with same | same | member | same | same
  · cases same
  · exact absurd (same ▸ nameStart_part start) (by decide)
  · exact absurd (parts _ member) (by decide)
  · cases same
  · cases same

theorem before_callFree {text : List Char} (bare : IsBareKey key) (free : IsCallFree text) :
    IsCallFree ('\x7b' :: (before key ++ text)) := by
  have slashed := (callFree_unopened (label_unopened bare)).slash free
  simpa [before] using slashed

/-- What begins with a bare key is no strict JSON, and is read once it has been made strict. -/
theorem json_relaxed (bare : IsBareKey key) (rest : List Char) : json now ('\x7b' :: (key ++ rest)) =
    Json.read (Relaxed.strict (expand now ('\x7b' :: (key ++ rest)))) := by
  obtain ⟨first, others, rfl, start, _⟩ := bareKey_parts bare
  rw [json]
  cases read : Json.read ('\x7b' :: (first :: others ++ rest)) with
  | error fault => rfl
  | ok known => exact absurd read (bare_unread start)

theorem json_bare {text : List Char} (bare : IsBareKey key) (free : IsCallFree text) :
    json now ('\x7b' :: (before key ++ text)) =
      Json.read (Relaxed.strict ('\x7b' :: (before key ++ text))) := by
  have expanded := expand_callFree now (before_callFree bare free)
  have read := @json_relaxed key now bare ([':', ' ', '/'] ++ text)
  rw [← List.append_assoc] at read
  exact read.trans (by rw [← before, expanded])

/-- Made strict, an expression that is cut off is one that ends there, in an object left open. -/
theorem strict_cut {front back : List Char} (bare : IsBareKey key) (source : IsPattern pattern)
    (cut : pattern = front ++ back) : ∃ label kept, Label .strict (String.ofList key) label ∧
      Relaxed.strict ('\x7b' :: (before key ++ front)) =
        '\x7b' :: (label ++ ' ' :: patternObject kept []) := by
  obtain ⟨label, same, labels⟩ := Relaxed.after_label (label_bare bare)
  have slash (out : List Char) :
      [' ', '/'].foldl step ⟨.plain, some ':', out⟩ = ⟨.pattern [], some ':', ' ' :: out⟩ := rfl
  obtain ⟨kept, finished⟩ := @finish_cut _ [] _ _ (' ' :: (label.reverse ++ ['\x7b'])) (some ':')
    source cut
  refine ⟨label, kept.reverse, same, ?_⟩
  have shape : before key ++ front = (key ++ [':']) ++ ([' ', '/'] ++ front) := by simp [before]
  have opened : step ⟨.plain, none, []⟩ '\x7b' = ⟨.plain, some '\x7b', ['\x7b']⟩ :=
    plainStep_sign (.inr (.inr (.inr rfl)))
  rw [Relaxed.strict, List.foldl_cons, opened, shape, List.foldl_append, labels _ _ rfl,
    List.foldl_append, slash, finished]
  simp [withPattern]

/-- An expression that is cut off leaves its object open. -/
theorem document_cut {front back : List Char} (bare : IsBareKey key) (source : IsPattern pattern)
    (free : IsCallFree pattern) (cut : pattern = front ++ back) :
    ∃ fault, document now ('\x7b' :: (before key ++ front)) = .error fault := by
  have within : front <:+: pattern := cut ▸ (List.prefix_append front back).isInfix
  obtain ⟨label, kept, same, made⟩ := strict_cut bare source cut
  have entries : Prints .strict (.entries [(String.ofList key, ofPattern kept [])])
      (label ++ ' ' :: patternObject kept []) :=
    .lastEntry same (@prints_patternObject kept [] (by simp)).spaced
  have shallow : 0 + 1 + depthOfEntries [(String.ofList key, ofPattern kept [])] ≤ maxDepth := by
    simp [depthOfEntries, ofPattern, depth, maxDepth]
  obtain ⟨next, _, name, last, _, run, holds⟩ := entries.readsAs .usual true [] [] shallow
  have unread (known : Json) : json now ('\x7b' :: (before key ++ front)) ≠ .ok known := by
    rw [json_bare bare (free.within within), made]
    intro read
    obtain ⟨final, whole, finished⟩ := read_ok.1 read
    have begun := @step_object .usual [] false (by decide)
    rw [Reader.start, Reader.after_cons begun, run] at whole
    cases whole
    exact holds_open holds finished
  cases found : json now ('\x7b' :: (before key ++ front)) with
  | ok known => exact absurd found (unread known)
  | error fault =>
    refine ⟨.invalidDocument (.malformed fault), ?_⟩
    rw [document, Query.value, found]
    rfl

theorem value_expression (plain : key.head? ≠ some '$') :
    Extended.value? (.object [(String.ofList key, ofPattern pattern flags)]) =
      some (.document [(String.ofList key,
        .regex (String.ofList pattern) (Extended.sortedText (String.ofList flags)))]) := by
  have inner : Extended.value? (ofPattern pattern flags) = some (.regex (String.ofList pattern)
      (Extended.sortedText (String.ofList flags))) := rfl
  have undollared : (String.ofList key).toList.head? ≠ some '$' := by rwa [String.toList_ofList]
  rw [Extended.value?, Extended.shape_plain undollared]
  simp only [Extended.fields, inner]
  rfl

theorem document_expression (bare : IsBareKey key) (plain : key.head? ≠ some '$')
    (source : IsPattern pattern) (free : IsCallFree pattern) (letters : ∀ c ∈ flags, c.isAlpha = true) :
    document now (around (before key) pattern ('/' :: flags)) = .ok [(String.ofList key,
      .regex (String.ofList pattern) (Extended.sortedText (String.ofList flags)))] := by
  have unopened : '(' ∉ flags ++ ['\x7d'] := by
    intro member
    rcases List.mem_append.1 member with letter | sign
    · exact absurd (letters _ letter) (by decide)
    · exact absurd sign (by decide)
  have whole := free.slash (callFree_unopened unopened)
  have shallow : depth (.object [(String.ofList key, ofPattern pattern flags)]) ≤ maxDepth := by
    simp [depthOfEntries, ofPattern, depth, maxDepth]
  have read := (strict_shell (isText_expression bare source letters) shallow).2
  have found : json now (around (before key) pattern ('/' :: flags)) =
      .ok (.object [(String.ofList key, ofPattern pattern flags)]) := by
    rw [← read]
    exact json_bare bare whole
  rw [document, Query.value, found]
  simp only [value_expression plain]
  rfl

end Filters

def expressionText (key pattern flags : String) : String :=
  "\x7b" ++ key ++ ": /" ++ pattern ++ "/" ++ flags ++ "\x7d"

theorem expressionText_toList (key pattern flags : String) : (expressionText key pattern flags).toList =
    around (before key.toList) pattern.toList ('/' :: flags.toList) := by
  have signs : "\x7b".toList = ['\x7b'] ∧ ": /".toList = [':', ' ', '/'] ∧ "/".toList = ['/'] ∧
      "\x7d".toList = ['\x7d'] := ⟨rfl, rfl, rfl, rfl⟩
  rw [expressionText, String.toList_append, String.toList_append, String.toList_append,
    String.toList_append, String.toList_append, String.toList_append, signs.1, signs.2.1,
    signs.2.2.1, signs.2.2.2]
  simp [around, before]

theorem callParts_arguments (rest : List Char) : (callParts rest).1 = untilClose .outside 0 rest := by
  unfold callParts untilClose closeCall?
  cases splitClose .outside 0 rest <;> rfl

theorem expression_line {key pattern flags : List Char} (bare : IsBareKey key)
    (oneLine : '\n' ∉ pattern) (letters : ∀ c ∈ flags, c.isAlpha = true) :
    '\n' ∉ "find".toList ++ around (before key) pattern ('/' :: flags) := by
  obtain ⟨first, rest, rfl, start, parts⟩ := bareKey_parts bare
  have noPart : isNamePart '\n' = false := by decide
  have noName : '\n' ∉ first :: rest := by
    intro member
    rcases List.mem_cons.1 member with rfl | member
    · rw [nameStart_part start] at noPart
      cases noPart
    · rw [parts _ member] at noPart
      cases noPart
  have noFlag : '\n' ∉ flags := fun member => absurd (letters _ member) (by decide)
  simp only [around, before, List.mem_append, List.mem_cons, List.not_mem_nil, or_false, not_or] at *
  simp_all

/-- Without a filter in the first argument there is no query. -/
theorem find_fault {now : Int} {collection : String} {rest first : List Char}
    {others : List (List Char)} (found : arguments (untilClose .outside 0 rest) = first :: others)
    (fails : ∃ fault, optionalDocument now first = .error fault) :
    ∃ fault, operationOf now ⟨collection, .find, rest⟩ = .error fault := by
  obtain ⟨fault, failed⟩ := fails
  rw [← callParts_arguments] at found
  refine ⟨fault, ?_⟩
  rw [operationOf]
  simp only [findOperation, found, List.headD_cons, failed]
  rfl

/-- A filter with one expression is read as it stands when the quotes, brackets and commas of the
pattern mislead no search for brackets, and is a fault otherwise. -/
theorem ofText_expression (now : Int) {collection key pattern flags : String}
    (named : collection ≠ "") (words : ∀ c ∈ collection.toList, Text.isWordChar c = true)
    (bare : IsBareKey key.toList) (plain : key.toList.head? ≠ some '$')
    (source : IsPattern pattern.toList) (oneLine : '\n' ∉ pattern.toList)
    (free : IsCallFree pattern.toList) (letters : ∀ c ∈ flags.toList, c.isAlpha = true) :
    (Passable pattern.toList →
      ofText now (callText collection "find" (expressionText key pattern flags)) =
        .ok ⟨collection, .find [(key, .regex pattern (Extended.sortedText flags))]⟩) ∧
    (¬ Passable pattern.toList → ∃ fault,
      ofText now (callText collection "find" (expressionText key pattern flags)) = .error fault) := by
  have quietLead := before_quiet bare
  have quietTrail := flags_quiet letters
  have unbroken : '\n' ∉ "find".toList ++ (expressionText key pattern flags).toList := by
    rw [expressionText_toList]
    exact expression_line bare oneLine letters
  rw [@ofText_line now _ "find" _ .find named words (fun more => rfl) unbroken, expressionText_toList]
  constructor
  · intro passable
    obtain ⟨rest, closed, only⟩ := passable_arguments quietLead quietTrail passable
    have parts : callParts (around (before key.toList) pattern.toList ('/' :: flags.toList) ++ [')']) =
        (around (before key.toList) pattern.toList ('/' :: flags.toList) ++ rest, []) := by
      rcases closed with ⟨rfl, unclosed⟩ | ⟨rfl, closed⟩
      · rw [callParts, unclosed]
      · rw [callParts, closed, List.append_nil]
        simp only [chain_nil]
    have document := @document_expression _ _ _ now bare plain source free letters
    have filter : optionalDocument now (around (before key.toList) pattern.toList
        ('/' :: flags.toList) ++ rest) = .ok [(key, .regex pattern (Extended.sortedText flags))] := by
      rw [optionalDocument, passable_group quietLead quietTrail passable]
      rw [String.ofList_toList, String.ofList_toList, String.ofList_toList] at document
      exact document
    rw [operationOf, parts]
    simp only [findOperation, only, List.headD_cons, filter]
    rfl
  · intro misled
    obtain ⟨first, others, found, grouped⟩ := misled_group quietLead quietTrail misled
    have fails : ∃ fault, optionalDocument now first = .error fault := by
      rcases grouped with open' | ⟨front, back, cut, grouped⟩
      · exact ⟨_, by rw [optionalDocument, open']; rfl⟩
      · obtain ⟨fault, failed⟩ := @document_cut _ _ now _ _ bare source free cut
        exact ⟨fault, by rw [optionalDocument, grouped]; exact failed⟩
    obtain ⟨fault, failed⟩ := @find_fault now collection _ _ _ found fails
    refine ⟨fault, ?_⟩
    rw [failed]
    rfl

/-- An escaped slash, a comma and brackets in pairs mislead nothing. -/
theorem ofText_expression_brackets :
    ofText 0 (callText "people" "find" (expressionText "name" "\\/[a,b]" "xi")) =
      .ok ⟨"people", .find [("name", .regex "\\/[a,b]" "ix")]⟩ := by
  have named : "people" ≠ "" := by decide
  have words : ∀ c ∈ "people".toList, Text.isWordChar c = true := Text.all_listed (by decide)
  have bare : IsBareKey "name".toList := ⟨.inl (by decide), Text.all_listed (by decide)⟩
  have undollared : "name".toList.head? ≠ some '$' := by decide
  have source : IsPattern "\\/[a,b]".toList := by
    refine .escaped ?_
    iterate 5 refine .plain (by decide) (by decide) ?_
    exact .nil
  have oneLine : '\n' ∉ "\\/[a,b]".toList := by decide
  have free : IsCallFree "\\/[a,b]".toList := callFree_unopened (by decide)
  have letters : ∀ c ∈ "xi".toList, c.isAlpha = true := Text.all_listed (by decide)
  have passable : Passable "\\/[a,b]".toList := ⟨by decide, 0, by decide⟩
  have sorted : Extended.sortedText "xi" = "ix" := by cbv
  rw [← sorted]
  exact (ofText_expression 0 named words bare undollared source oneLine free letters).1 passable

/-- An apostrophe in an expression is taken for the beginning of a string, and no bracket is seen. -/
theorem ofText_apostrophe : ofText 0 (callText "people" "find" (expressionText "name" "O'Brien" "i")) =
    .error (.unbalanced '\x7b') := by cbv

end Inquiry.Query
