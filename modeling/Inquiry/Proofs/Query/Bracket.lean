import Inquiry.Proofs.Json.Shape
import Inquiry.Query.Bracket

/-!
In a text that the reader takes, what looks for brackets outside strings sees the strings and the
nesting that the reader sees, so an argument ends where its value ends.
-/
namespace Inquiry.Bracket

open Json

def quoteOf : Option Literal → Quote
  | some (.text .plain _) | some (.text (.unit _ _ _) _) | some (.text (.lowHalf _) _) => .inside '"'
  | some (.text .escape _) | some (.text (.lowHalfMark _) _) => .escaped '"'
  | some (.word _ _) | some (.number _ _) | none => .outside

def depthOf : State → Nat
  | .value _ stack | .after _ stack => stack.length
  | .field _ _ stack | .colon _ _ stack => stack.length + 1

def IsSpoilt : Option Literal → Prop
  | some (.text (.unit _ none _) _) => True
  | _ => False

structure Tracks (reader : Reader) (quote : Quote) (depth : Nat) : Prop where
  quote : quoteOf reader.literal = quote
  depth : depthOf reader.state = depth
  sound : ∀ literal, reader.literal = some literal → literal.IsSound
  whole : ¬ IsSpoilt reader.literal

structure Seen (c : Char) (depth : Nat) (next : Reader) : Prop where
  round : c ≠ '(' ∧ c ≠ ')'
  comma : c = ',' → 0 < depth
  close : closes c = true → 0 < depth ∧ ∃ value stack, next = ⟨none, .after value stack⟩

/-- A character that is neither a quote nor a bracket nor a comma. -/
def Quiet (c : Char) : Prop :=
  isQuote c = false ∧ opens c = false ∧ closes c = false ∧ c ≠ ','

instance : DecidablePred Quiet := fun c =>
  inferInstanceAs (Decidable (isQuote c = false ∧ opens c = false ∧ closes c = false ∧ c ≠ ','))

section Steps

variable {limits : Limits} {state left : State} {reader next : Reader} {c : Char} {quote : Quote}
  {depth : Nat} {value : Json}

theorem digit_quiet (digit : c.isDigit = true) : Quiet c := by
  have quiet : ∀ c ∈ "0123456789".toList, Quiet c := Text.all_listed (by decide)
  exact quiet c (Text.digit_listed digit)

theorem quiet_unlisted (unlisted : c ∉ "\"'(\x7b[)\x7d],".toList) : Quiet c := by
  have other {mark : Char} (listed : mark ∈ "\"'(\x7b[)\x7d],".toList) : c ≠ mark := by
    rintro rfl
    exact unlisted listed
  refine ⟨?_, ?_, ?_, other (by decide)⟩
  · simp only [isQuote, Bool.or_eq_false_iff, beq_eq_false_iff_ne]
    exact ⟨other (by decide), other (by decide)⟩
  · simp only [opens, Bool.or_eq_false_iff, beq_eq_false_iff_ne]
    exact ⟨⟨other (by decide), other (by decide)⟩, other (by decide)⟩
  · simp only [closes, Bool.or_eq_false_iff, beq_eq_false_iff_ne]
    exact ⟨⟨other (by decide), other (by decide)⟩, other (by decide)⟩

theorem alpha_quiet (letter : c.isAlpha = true) : Quiet c := by
  have plain : ∀ c ∈ "\"'(\x7b[)\x7d],".toList, c.isAlpha = false := Text.all_listed (by decide)
  refine quiet_unlisted fun listed => ?_
  rw [plain c listed] at letter
  cases letter

theorem white_quiet (white : Text.isWhitespace c = true) : Quiet c := by
  have plain : ∀ c ∈ "\"'(\x7b[)\x7d],".toList, Text.isWhitespace c = false :=
    Text.all_listed (by decide)
  refine quiet_unlisted fun listed => ?_
  rw [plain c listed] at white
  cases white

theorem blank_quiet (blank : Json.isBlank c = true) : Quiet c := by
  rcases blank_iff.1 blank with rfl | rfl | rfl | rfl <;> decide

theorem next_quiet (quiet : Quiet c) : Quote.outside.next c = .outside := by
  simp [Quote.next, quiet.1]

theorem depthAfter_quiet (quiet : Quiet c) : depthAfter quote depth c = depth := by
  simp [depthAfter, quiet.2.1, quiet.2.2.1]

theorem seen_other (round : c ≠ '(') (comma : c ≠ ',') (closing : closes c = false) :
    Seen c depth next := by
  refine ⟨⟨round, ?_⟩, fun same => absurd same comma, fun closed => ?_⟩
  · rintro rfl
    cases closing
  · rw [closing] at closed
    cases closed

theorem seen_quiet (quiet : Quiet c) : Seen c depth next := by
  obtain ⟨_, opening, closing, comma⟩ := quiet
  refine seen_other ?_ comma closing
  rintro rfl
  cases opening

theorem seen_close (closer : c = ']' ∨ c = '\x7d') (stack : List Frame) :
    Seen c (stack.length + 1) ⟨none, .after value stack⟩ := by
  refine ⟨?_, ?_, fun _ => ⟨Nat.succ_pos _, value, stack, rfl⟩⟩
  · rcases closer with rfl | rfl <;> decide
  · rcases closer with rfl | rfl <;> (intro same; cases same)

theorem seen_comma (positive : 0 < depth) : Seen ',' depth next :=
  ⟨by decide, fun _ => positive, fun closed => by cases closed⟩

theorem take_depth (taken : state.take limits value = .ok left) : depthOf left = depthOf state := by
  cases state with
  | value orClose stack =>
    simp only [State.take] at taken
    split at taken <;> cases taken
    rfl
  | field orClose entries stack => cases value <;> cases taken <;> rfl
  | colon key entries stack => cases value <;> cases taken <;> rfl
  | after known stack => cases value <;> cases taken <;> rfl

theorem outside_tracks (same : depthOf state = depth) : Tracks ⟨none, state⟩ .outside depth :=
  ⟨rfl, same, fun _ other => (by cases other), id⟩

theorem begun_tracks {literal : Literal} (same : quoteOf (some literal) = quote)
    (sound : literal.IsSound) (whole : ¬ IsSpoilt (some literal)) :
    Tracks ⟨some literal, state⟩ quote (depthOf state) :=
  ⟨same, rfl, fun _ found => Option.some.inj found ▸ sound, whole⟩

theorem move_tracks (move : Move state c next) :
    Tracks next (Quote.outside.next c) (depthAfter .outside (depthOf state) c) ∧
      Seen c (depthOf state) next := by
  cases move with
  | blank state blank =>
    have quiet := blank_quiet blank
    rw [next_quiet quiet, depthAfter_quiet quiet]
    exact ⟨outside_tracks rfl, seen_quiet quiet⟩
  | literal orClose stack begun =>
    have sound := ofChar_sound begun
    rcases ofChar_cases begun with ⟨rfl, rfl⟩ | ⟨letter, word, rest, rfl, _⟩ | ⟨digit, part, rfl⟩
    · exact ⟨begun_tracks rfl sound id, seen_other (by decide) (by decide) rfl⟩
    · have words : ∀ c ∈ ['n', 't', 'f'], Quiet c := Text.all_listed (by decide)
      have quiet := words c letter
      rw [next_quiet quiet, depthAfter_quiet quiet]
      exact ⟨begun_tracks rfl sound id, seen_quiet quiet⟩
    · have quiet : Quiet c := by
        rcases digit with digit | rfl
        · exact digit_quiet digit
        · decide
      rw [next_quiet quiet, depthAfter_quiet quiet]
      exact ⟨begun_tracks rfl sound id, seen_quiet quiet⟩
  | key orClose entries stack =>
    exact ⟨begun_tracks rfl trivial id, seen_other (by decide) (by decide) rfl⟩
  | colon => exact ⟨outside_tracks rfl, seen_quiet (by decide)⟩
  | openList => exact ⟨outside_tracks rfl, seen_other (by decide) (by decide) rfl⟩
  | openObject => exact ⟨outside_tracks rfl, seen_other (by decide) (by decide) rfl⟩
  | nextItem => exact ⟨outside_tracks rfl, seen_comma (Nat.succ_pos _)⟩
  | nextEntry => exact ⟨outside_tracks rfl, seen_comma (Nat.succ_pos _)⟩
  | closeEmptyList items stack => exact ⟨outside_tracks rfl, seen_close (.inl rfl) stack⟩
  | closeEmptyObject entries stack => exact ⟨outside_tracks rfl, seen_close (.inr rfl) stack⟩
  | closeList value items stack => exact ⟨outside_tracks rfl, seen_close (.inl rfl) stack⟩
  | closeObject value entries key stack => exact ⟨outside_tracks rfl, seen_close (.inr rfl) stack⟩

theorem spoilt_accepts {literal : Option Literal} {text : List Char} (spoilt : IsSpoilt literal) :
    ¬ Reader.Accepts limits ⟨literal, state⟩ text value := by
  intro accepts
  induction text generalizing literal with
  | nil =>
    rcases finish_inv (Reader.accepts_nil.1 accepts) with same | ⟨part, seen, same, _⟩
    · cases same
      exact spoilt
    · change literal = _ at same
      rw [same] at spoilt
      exact spoilt
  | cons c rest ih =>
    obtain ⟨next, stepped, accepts⟩ := Reader.accepts_cons.1 accepts
    cases step_advance stepped with
    | outside => exact spoilt
    | goesOn state progress =>
      cases progress with
      | text seen more inside move =>
        cases move with
        | spoilt high known bytes count =>
          exact ih (show IsSpoilt (some (.text (.unit high none count) more)) from trivial) accepts
        | _ => exact spoilt
      | _ => exact spoilt
    | ends progress taken => cases progress <;> exact spoilt
    | endsBefore progress taken move => cases progress; exact spoilt

/-- Inside a string the scanners and the reader go on together, as long as no escape is spoilt. -/
theorem text_tracks {part further : TextPart} {seen more : List Char}
    (inside : part = .plain → c ≠ '"') (move : TextMove part c further)
    (whole : ¬ IsSpoilt (some (.text further more))) :
    quoteOf (some (.text further more)) = (quoteOf (some (.text part seen))).next c := by
  have hex {digit : Nat} (read : hexValue? c = some digit) : c ≠ '\\' ∧ c ≠ '"' := by
    constructor <;> (rintro rfl; cases read)
  cases move with
  | plain visible unescaped => simp [quoteOf, Quote.next, unescaped, inside rfl]
  | escape => rfl
  | letter => rfl
  | unit => rfl
  | digit high bytes more read => simp [quoteOf, Quote.next, hex read]
  | spoilt => exact absurd trivial whole
  | whole high bytes read => simp [quoteOf, Quote.next, hex read]
  | firstHalf high bytes half read => simp [quoteOf, Quote.next, hex read]
  | mark => rfl
  | secondUnit => rfl

theorem quoteOf_text (part : TextPart) (seen : List Char) :
    (∃ mark, quoteOf (some (.text part seen)) = .inside mark) ∨
      ∃ mark, quoteOf (some (.text part seen)) = .escaped mark := by
  cases part with
  | plain | unit | lowHalf => exact .inl ⟨_, rfl⟩
  | escape | lowHalfMark => exact .inr ⟨_, rfl⟩

theorem sees_text (part : TextPart) (seen : List Char) (c : Char) :
    (quoteOf (some (.text part seen))).sees c = false := by
  rcases quoteOf_text part seen with ⟨mark, inside⟩ | ⟨mark, inside⟩ <;>
    simp [inside, Quote.sees]

theorem depthAfter_hidden (hidden : quote.sees c = false) : depthAfter quote depth c = depth := by
  simp [depthAfter, hidden]

/-- One character keeps the scanners in step with the reader, and seen outside strings it tells
how the reader stands. -/
theorem Tracks.step {rest : List Char} (tracks : Tracks reader quote depth)
    (stepped : reader.step limits c = .ok next) (accepts : next.Accepts limits rest value) :
    Tracks next (quote.next c) (depthAfter quote depth c) ∧
      (quote.sees c = true → Seen c depth next) := by
  obtain ⟨rfl, rfl, sound, whole⟩ := tracks
  -- A spoilt escape may hide a quote from the reader only, but it is never accepted later on.
  have unspoilt : ¬ IsSpoilt next.literal := fun spoilt => spoilt_accepts spoilt accepts
  cases step_advance stepped with
  | outside move =>
    obtain ⟨next_tracks, seen⟩ := move_tracks move
    exact ⟨next_tracks, fun _ => seen⟩
  | @goesOn literal further c state progress =>
    have soundNext := progress.sound (sound _ rfl)
    cases progress with
    | letter value c rest =>
      have quiet := alpha_quiet ((sound _ rfl).2 c List.mem_cons_self)
      refine ⟨?_, fun _ => seen_quiet quiet⟩
      rw [depthAfter_quiet quiet]
      exact begun_tracks (next_quiet quiet).symm soundNext unspoilt
    | digit seen continues =>
      have quiet : Quiet c := by
        rcases next?_digit continues with digit | sign
        · exact digit_quiet digit
        · have signs : ∀ c ∈ ['+', '-', '.', 'e', 'E'], Quiet c := Text.all_listed (by decide)
          exact signs c sign
      refine ⟨?_, fun _ => seen_quiet quiet⟩
      rw [depthAfter_quiet quiet]
      exact begun_tracks (next_quiet quiet).symm soundNext unspoilt
    | @text part further c seen more inside move =>
      have hidden := sees_text part seen c
      refine ⟨?_, fun sees => ?_⟩
      · rw [depthAfter_hidden hidden]
        exact begun_tracks (text_tracks inside move unspoilt) soundNext unspoilt
      · rw [hidden] at sees
        cases sees
  | ends progress taken =>
    have same := take_depth taken
    cases progress with
    | lastLetter value c =>
      have quiet := alpha_quiet ((sound _ rfl).2 c List.mem_cons_self)
      refine ⟨?_, fun _ => seen_quiet quiet⟩
      rw [depthAfter_quiet quiet]
      change Tracks _ (Quote.outside.next c) _
      rw [next_quiet quiet]
      exact outside_tracks same
    | quote seen content =>
      refine ⟨outside_tracks same, fun sees => ?_⟩
      cases sees
  | endsBefore progress taken move =>
    obtain ⟨next_tracks, seen⟩ := move_tracks move
    rw [take_depth taken] at next_tracks seen
    cases progress with
    | afterNumber part known c => exact ⟨next_tracks, fun _ => seen⟩

theorem Tracks.finish (tracks : Tracks reader quote depth)
    (finished : reader.finish limits = .ok value) : quote = .outside ∧ depth = 0 := by
  obtain ⟨rfl, rfl, _, _⟩ := tracks
  rcases finish_inv finished with rfl | ⟨part, seen, literal, taken⟩
  · exact ⟨rfl, rfl⟩
  · rw [literal, ← take_depth taken]
    exact ⟨rfl, rfl⟩

end Steps

section Scans

variable {limits : Limits} {reader : Reader} {quote : Quote} {depth : Nat} {value : Json}
  {text : List Char}

theorem sees_outside {c : Char} (sees : quote.sees c = true) :
    quote = .outside ∧ quote.next c = .outside := by
  simp only [Quote.sees, Bool.and_eq_true, beq_iff_eq, Bool.not_eq_true'] at sees
  obtain ⟨rfl, plain⟩ := sees
  simp [Quote.next, plain]

theorem groupTail_open {c : Char} {rest : List Char}
    (opening : (quote.sees c && (c == '\x7b' || c == '[')) = true) :
    groupTail? quote depth (c :: rest) = (groupTail? .outside (depth + 1) rest).map (c :: ·) := by
  rw [groupTail?.eq_def]
  simp only [opening, if_true]

theorem groupTail_inside {c : Char} {rest : List Char}
    (opening : ¬ (quote.sees c && (c == '\x7b' || c == '[')) = true)
    (closing : ¬ (quote.sees c && (c == '\x7d' || c == ']')) = true) :
    groupTail? quote depth (c :: rest) = (groupTail? (quote.next c) depth rest).map (c :: ·) := by
  rw [groupTail?.eq_def]
  simp only [opening, closing, if_false, Bool.false_eq_true]

/-- A group ends where its value ends, and only blanks are left after it. -/
theorem groupTail_accepted (tracks : Tracks reader quote (depth + 1))
    (accepts : reader.Accepts limits text value) :
    ∃ front back, text = front ++ back ∧ groupTail? quote depth text = some front ∧
      reader.Accepts limits front value ∧ IsGap back := by
  induction text generalizing reader quote depth with
  | nil =>
    obtain ⟨_, impossible⟩ := tracks.finish (Reader.accepts_nil.1 accepts)
    cases impossible
  | cons c rest ih =>
    obtain ⟨next, stepped, accepts⟩ := Reader.accepts_cons.1 accepts
    obtain ⟨tracks, seen⟩ := tracks.step stepped accepts
    have further {inner : Nat} (deeper : depthAfter quote (depth + 1) c = inner + 1)
        (same : groupTail? quote depth (c :: rest) =
          (groupTail? (quote.next c) inner rest).map (c :: ·)) :
        ∃ front back, c :: rest = front ++ back ∧ groupTail? quote depth (c :: rest) = some front ∧
          reader.Accepts limits front value ∧ IsGap back := by
      rw [deeper] at tracks
      obtain ⟨front, back, rfl, found, taken, blank⟩ := ih tracks accepts
      rw [same, found]
      exact ⟨c :: front, back, rfl, rfl, Reader.accepts_cons.2 ⟨next, stepped, taken⟩, blank⟩
    by_cases opening : (quote.sees c && (c == '\x7b' || c == '[')) = true
    · have opened := opening
      simp only [Bool.and_eq_true, Bool.or_eq_true, beq_iff_eq] at opened
      obtain ⟨sees, bracket⟩ := opened
      refine @further (depth + 1) ?_ ?_
      · rcases bracket with rfl | rfl <;> simp [depthAfter, sees, opens]
      · rw [groupTail_open opening, (sees_outside sees).2]
    by_cases closing : (quote.sees c && (c == '\x7d' || c == ']')) = true
    · have closed := closing
      simp only [Bool.and_eq_true, Bool.or_eq_true, beq_iff_eq] at closed
      obtain ⟨sees, bracket⟩ := closed
      have less : depthAfter quote (depth + 1) c = depth := by
        rcases bracket with rfl | rfl <;> simp [depthAfter, sees, opens, closes]
      cases depth with
      | zero =>
        -- The bracket that closes the group leaves a complete value, so only blanks can follow.
        obtain ⟨_, known, stack, rfl⟩ := (seen sees).close (by
          rcases bracket with rfl | rfl <;> rfl)
        have empty : stack = [] := List.eq_nil_of_length_eq_zero (tracks.depth.trans less)
        subst empty
        obtain ⟨blank, rfl⟩ := complete_accepts accepts
        refine ⟨[c], rest, rfl, ?_, Reader.accepts_cons.2 ⟨_, stepped, Reader.accepts_nil.2 rfl⟩, blank⟩
        rw [groupTail?, if_neg opening, if_pos closing]
      | succ outer =>
        refine @further outer less ?_
        rw [groupTail?, if_neg opening, if_pos closing, (sees_outside sees).2]
    · refine @further depth ?_ (groupTail_inside opening closing)
      cases sees : quote.sees c with
      | false => exact depthAfter_hidden sees
      | true =>
        simp only [sees, Bool.true_and, Bool.or_eq_true, beq_iff_eq, not_or] at opening closing
        have round := (seen sees).round
        simp [depthAfter, opens, closes, round, opening, closing]

theorem fromBracket_gap {gap : List Char} {bracket : Char} {rest : List Char} (blank : IsGap gap)
    (isBracket : bracket = '[' ∨ bracket = '\x7b') :
    fromBracket? bracket .outside (gap ++ bracket :: rest) = some rest := by
  induction gap with
  | nil => rcases isBracket with rfl | rfl <;> rfl
  | cons c gap ih =>
    have other : c ≠ bracket := by
      rintro rfl
      rcases isBracket with rfl | rfl <;> cases blank.head
    have skipped : ¬ (Quote.outside.sees c && c == bracket) = true := by simp [other]
    rw [List.cons_append, fromBracket?, if_neg skipped, next_quiet (blank_quiet blank.head)]
    exact ih blank.tail

theorem group_accepted {bracket : Char} {entered : Reader} {gap rest : List Char}
    (blank : IsGap gap) (isBracket : bracket = '[' ∨ bracket = '\x7b')
    (enters : Reader.start.step limits bracket = .ok entered)
    (tracks : Tracks entered .outside 1) (accepts : entered.Accepts limits rest value) :
    ∃ group, group? bracket (gap ++ bracket :: rest) = .ok (some group) ∧
      Reader.start.Accepts limits group value := by
  obtain ⟨front, back, rfl, found, taken, _⟩ := @groupTail_accepted _ _ _ 0 _ _ tracks accepts
  refine ⟨bracket :: front, ?_, Reader.accepts_cons.2 ⟨entered, enters, taken⟩⟩
  rw [group?, fromBracket_gap blank isBracket]
  simp only [found]

/-- The first object in a text that is an object is the text itself, blanks aside. -/
theorem group_object {entries : List (String × Json)}
    (read : Json.read text = .ok (.object entries)) :
    ∃ group, group? '\x7b' text = .ok (some group) ∧ Json.read group = .ok (.object entries) := by
  obtain ⟨gap, c, rest, next, rfl, blank, accepts, begun⟩ := accepts_begin (read_ok.1 read)
  rcases begun with plain | ⟨list, _⟩ | ⟨_, rfl, rfl⟩
  · cases plain
  · cases list
  · obtain ⟨group, found, taken⟩ :=
      group_accepted blank (.inr rfl) rfl (outside_tracks rfl) accepts
    exact ⟨group, found, read_ok.2 taken⟩

theorem group_list {items : List Json} (read : Json.read text = .ok (.list items)) :
    ∃ group, group? '[' text = .ok (some group) ∧ Json.read group = .ok (.list items) := by
  obtain ⟨gap, c, rest, next, rfl, blank, accepts, begun⟩ := accepts_begin (read_ok.1 read)
  rcases begun with plain | ⟨_, rfl, rfl⟩ | ⟨object, _⟩
  · cases plain
  · obtain ⟨group, found, taken⟩ :=
      group_accepted blank (.inl rfl) rfl (outside_tracks rfl) accepts
    exact ⟨group, found, read_ok.2 taken⟩
  · cases object

end Scans

end Inquiry.Bracket
