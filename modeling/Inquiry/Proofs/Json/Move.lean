import Inquiry.Proofs.Attempt
import Inquiry.Proofs.Json.Grammar
import Inquiry.Proofs.Json.Run
import Inquiry.Proofs.Text.Property

/-! What one character does to the reader, when it is no fault. -/
namespace Inquiry.Json

inductive Move : State → Char → Reader → Prop
  | blank {c : Char} (state : State) (blank : isBlank c = true) : Move state c ⟨none, state⟩
  | literal {c : Char} {literal : Literal} (orClose : Bool) (stack : List Frame)
      (begun : Literal.ofChar? c = some literal) :
      Move (.value orClose stack) c ⟨some literal, .value orClose stack⟩
  | key (orClose : Bool) (entries : List (String × Json)) (stack : List Frame) :
      Move (.field orClose entries stack) '"'
        ⟨some (.text .plain []), .field orClose entries stack⟩
  | colon (key : String) (entries : List (String × Json)) (stack : List Frame) :
      Move (.colon key entries stack) ':' ⟨none, .value false (.object entries key :: stack)⟩
  | openList (orClose : Bool) (stack : List Frame) :
      Move (.value orClose stack) '[' ⟨none, .value true (.list [] :: stack)⟩
  | openObject (orClose : Bool) (stack : List Frame) :
      Move (.value orClose stack) '\x7b' ⟨none, .field true [] stack⟩
  | nextItem (value : Json) (items : List Json) (stack : List Frame) :
      Move (.after value (.list items :: stack)) ','
        ⟨none, .value false (.list (value :: items) :: stack)⟩
  | nextEntry (value : Json) (entries : List (String × Json)) (key : String) (stack : List Frame) :
      Move (.after value (.object entries key :: stack)) ','
        ⟨none, .field false ((key, value) :: entries) stack⟩
  | closeEmptyList (items : List Json) (stack : List Frame) :
      Move (.value true (.list items :: stack)) ']' ⟨none, .after (.list items.reverse) stack⟩
  | closeEmptyObject (entries : List (String × Json)) (stack : List Frame) :
      Move (.field true entries stack) '\x7d' ⟨none, .after (.object entries.reverse) stack⟩
  | closeList (value : Json) (items : List Json) (stack : List Frame) :
      Move (.after value (.list items :: stack)) ']'
        ⟨none, .after (.list (value :: items).reverse) stack⟩
  | closeObject (value : Json) (entries : List (String × Json)) (key : String) (stack : List Frame) :
      Move (.after value (.object entries key :: stack)) '\x7d'
        ⟨none, .after (.object ((key, value) :: entries).reverse) stack⟩

section Moves

variable {limits : Limits} {state : State} {next : Reader} {c : Char}

theorem opened_inv {stack : List Frame} {entered : State}
    (entering : opened limits stack state = .ok entered) : entered = state := by
  unfold opened at entering
  split at entering
  next => cases entering
  next => exact (Except.ok.inj entering).symm

theorem beginLiteral_inv {cause : Cause} (begun : beginLiteral state cause c = .ok next) :
    ∃ literal, Literal.ofChar? c = some literal ∧ next = ⟨some literal, state⟩ := by
  unfold beginLiteral at begun
  split at begun
  next literal found => exact ⟨literal, found, (Except.ok.inj begun).symm⟩
  next => cases begun

theorem beginValue_move {orClose : Bool} {stack : List Frame}
    (begun : beginValue limits orClose stack c = .ok next) : Move (.value orClose stack) c next := by
  unfold beginValue at begun
  split at begun
  next list =>
    obtain ⟨entered, entering, rfl⟩ := map_ok begun
    rw [beq_iff_eq.1 list, opened_inv entering]
    exact .openList orClose stack
  next =>
    split at begun
    next object =>
      obtain ⟨entered, entering, rfl⟩ := map_ok begun
      rw [beq_iff_eq.1 object, opened_inv entering]
      exact .openObject orClose stack
    next =>
      split at begun
      next close =>
        obtain ⟨left, leaving, rfl⟩ := map_ok begun
        rw [beq_iff_eq.1 close]
        unfold closeEmpty at leaving
        split at leaving
        next items stack =>
          cases leaving
          exact .closeEmptyList items stack
        next => cases leaving
        next => cases leaving
      next =>
        obtain ⟨literal, found, rfl⟩ := beginLiteral_inv begun
        exact .literal orClose stack found

theorem beginField_move {orClose : Bool} {entries : List (String × Json)} {stack : List Frame}
    (begun : beginField orClose entries stack c = .ok next) :
    Move (.field orClose entries stack) c next := by
  unfold beginField at begun
  split at begun
  next quote =>
    cases begun
    rw [beq_iff_eq.1 quote]
    exact .key orClose entries stack
  next =>
    split at begun
    next close =>
      rw [beq_iff_eq.1 close]
      split at begun
      next empty =>
        cases begun
        rw [empty]
        exact .closeEmptyObject entries stack
      next => cases begun
    next => cases begun

theorem afterValue_move {value : Json} {stack : List Frame} {left : State}
    (stepped : afterValue value stack c = .ok left) : Move (.after value stack) c ⟨none, left⟩ := by
  cases stack with
  | nil => cases stepped
  | cons frame stack =>
    cases frame with
    | list items =>
      simp only [afterValue] at stepped
      split at stepped
      next comma =>
        cases stepped
        rw [beq_iff_eq.1 comma]
        exact .nextItem value items stack
      next =>
        split at stepped
        next close =>
          cases stepped
          rw [beq_iff_eq.1 close]
          exact .closeList value items stack
        next => cases stepped
    | object entries key =>
      simp only [afterValue] at stepped
      split at stepped
      next comma =>
        cases stepped
        rw [beq_iff_eq.1 comma]
        exact .nextEntry value entries key stack
      next =>
        split at stepped
        next close =>
          cases stepped
          rw [beq_iff_eq.1 close]
          exact .closeObject value entries key stack
        next => cases stepped

theorem step_move (stepped : state.step limits c = .ok next) : Move state c next := by
  unfold State.step at stepped
  split at stepped
  next blank =>
    cases stepped
    exact .blank state blank
  next =>
    cases state with
    | value orClose stack => exact beginValue_move stepped
    | field orClose entries stack => exact beginField_move stepped
    | colon key entries stack =>
      simp only at stepped
      split at stepped
      next colon =>
        cases stepped
        rw [beq_iff_eq.1 colon]
        exact .colon key entries stack
      next => cases stepped
    | after value stack =>
      obtain ⟨left, moved, rfl⟩ := map_ok stepped
      exact afterValue_move moved

theorem next?_digit {part next : NumberPart} (continues : part.next? c = some next) :
    c.isDigit = true ∨ c ∈ ['+', '-', '.', 'e', 'E'] := by
  cases digit : c.isDigit with
  | true => exact .inl rfl
  | false =>
    right
    have zero : c ≠ '0' := by
      rintro rfl
      cases digit
    cases part <;>
      simp only [NumberPart.next?, NumberPart.tail?, digit, beq_iff_eq, zero, Bool.or_eq_true,
        Bool.false_eq_true, if_false] at continues <;>
      grind

inductive Shape where
  | plain
  | list
  | object

def shape : Json → Shape
  | .list _ => .list
  | .object _ => .object
  | _ => .plain

/-- A literal that can have been begun: what a word means is plain, and letters complete it. -/
def Literal.IsSound : Literal → Prop
  | .word value rest => value.shape = .plain ∧ ∀ c ∈ rest, c.isAlpha = true
  | _ => True

theorem ofChar_cases {literal : Literal} (begun : Literal.ofChar? c = some literal) :
    c = '"' ∧ literal = .text .plain [] ∨
    c ∈ ['n', 't', 'f'] ∧ (∃ value rest, literal = .word value rest ∧ literal.IsSound) ∨
    (c.isDigit = true ∨ c = '-') ∧ ∃ part, literal = .number part [c] := by
  have word {value : Json} {rest : List Char} (found : some (Literal.word value rest) = some literal)
      (plain : value.shape = .plain) (letters : ∀ c ∈ rest, c.isAlpha = true) :
      ∃ value rest, literal = .word value rest ∧ literal.IsSound := by
    cases found
    exact ⟨value, rest, rfl, plain, letters⟩
  unfold Literal.ofChar? at begun
  split at begun
  next quote => exact .inl ⟨beq_iff_eq.1 quote, (Option.some.inj begun).symm⟩
  next =>
    right
    split at begun
    next letter =>
      rw [beq_iff_eq.1 letter]
      exact .inl ⟨by decide, word begun rfl (Text.all_listed (by decide))⟩
    next =>
      split at begun
      next letter =>
        rw [beq_iff_eq.1 letter]
        exact .inl ⟨by decide, word begun rfl (Text.all_listed (by decide))⟩
      next =>
        split at begun
        next letter =>
          rw [beq_iff_eq.1 letter]
          exact .inl ⟨by decide, word begun rfl (Text.all_listed (by decide))⟩
        next =>
          right
          obtain ⟨part, starts, rfl⟩ := Option.map_eq_some_iff.1 begun
          refine ⟨?_, part, rfl⟩
          cases entered : NumberPart.next? .sign c with
          | some other =>
            left
            rcases next?_digit entered with digit | sign
            · exact digit
            · simp only [List.mem_cons, List.not_mem_nil, or_false] at sign
              rcases sign with rfl | rfl | rfl | rfl | rfl <;> cases entered
          | none =>
            right
            rw [entered] at starts
            change (if c == '-' then some NumberPart.sign else none) = some part at starts
            split at starts
            next sign => exact beq_iff_eq.1 sign
            next => cases starts

theorem ofChar_sound {literal : Literal} (begun : Literal.ofChar? c = some literal) :
    literal.IsSound := by
  rcases ofChar_cases begun with ⟨_, rfl⟩ | ⟨_, value, rest, _, sound⟩ | ⟨_, part, rfl⟩
  · trivial
  · exact sound
  · trivial

def tokens : List Char := "[]\x7b\x7d,:\"ntf-0123456789".toList

theorem Move.token (move : Move state c next) : isBlank c = true ∨ c ∈ tokens := by
  cases move with
  | blank state blank => exact .inl blank
  | literal orClose stack begun =>
    right
    have letters : ∀ c ∈ ['n', 't', 'f'], c ∈ tokens := Text.all_listed (by decide)
    have digits : ∀ c ∈ "0123456789".toList, c ∈ tokens := Text.all_listed (by decide)
    rcases ofChar_cases begun with ⟨rfl, _⟩ | ⟨letter, _⟩ | ⟨digit | rfl, _⟩
    · decide
    · exact letters c letter
    · exact digits c (Text.digit_listed digit)
    · decide
  | _ => exact .inr (by decide)

inductive TextMove : TextPart → Char → TextPart → Prop
  | plain {c : Char} (visible : 0x20 ≤ c.toNat) (unescaped : c ≠ '\\') : TextMove .plain c .plain
  | escape : TextMove .plain '\\' .escape
  | letter {c meant : Char} (short : simpleEscape? c = some meant) : TextMove .escape c .plain
  | unit : TextMove .escape 'u' (.unit none (some 0) 0)
  | digit {c : Char} {value digit : Nat} (high : Option Nat) (bytes more : Nat)
      (read : hexValue? c = some digit) :
      TextMove (.unit high (some value) bytes) c (.unit high (some (16 * value + digit)) more)
  | spoilt {c : Char} (high value : Option Nat) (bytes more : Nat) :
      TextMove (.unit high value bytes) c (.unit high none more)
  | whole {c : Char} {value digit : Nat} (high : Option Nat) (bytes : Nat)
      (read : hexValue? c = some digit) : TextMove (.unit high (some value) bytes) c .plain
  | firstHalf {c : Char} {value digit : Nat} (high : Option Nat) (bytes half : Nat)
      (read : hexValue? c = some digit) :
      TextMove (.unit high (some value) bytes) c (.lowHalf half)
  | mark (high : Nat) : TextMove (.lowHalf high) '\\' (.lowHalfMark high)
  | secondUnit (high : Nat) : TextMove (.lowHalfMark high) 'u' (.unit (some high) (some 0) 0)

theorem takeUnit_inv {seen : List Char} {high : Option Nat} {unit : Nat} {literal : Literal}
    (taken : takeUnit seen high unit = .ok literal) :
    (∃ more, literal = .text .plain more) ∨ ∃ half, literal = .text (.lowHalf half) seen := by
  unfold takeUnit at taken
  split at taken
  next =>
    split at taken
    next =>
      cases taken
      exact .inr ⟨_, rfl⟩
    next =>
      split at taken
      next => cases taken
      next =>
        cases taken
        exact .inl ⟨_, rfl⟩
  next =>
    split at taken
    next =>
      cases taken
      exact .inl ⟨_, rfl⟩
    next => cases taken

theorem unitStep_move {seen : List Char} {high value : Option Nat} {bytes : Nat} {literal : Literal}
    (stepped : unitStep seen high value bytes c = .ok literal) :
    ∃ part more, literal = .text part more ∧ TextMove (.unit high value bytes) c part := by
  simp only [unitStep] at stepped
  split at stepped
  next =>
    cases stepped
    refine ⟨_, _, rfl, ?_⟩
    cases value with
    | none => exact .spoilt high none bytes _
    | some sofar =>
      cases read : hexValue? c with
      | none => exact .spoilt high (some sofar) bytes _
      | some digit => exact .digit high bytes _ read
  next =>
    split at stepped
    next unit complete =>
      obtain ⟨sofar, rfl, complete⟩ := Option.bind_eq_some_iff.1 complete
      obtain ⟨digit, read, rfl⟩ := Option.map_eq_some_iff.1 complete
      rcases takeUnit_inv stepped with ⟨more, rfl⟩ | ⟨half, rfl⟩
      · exact ⟨_, _, rfl, .whole high bytes read⟩
      · exact ⟨_, _, rfl, .firstHalf high bytes half read⟩
    next => cases stepped

theorem textStep_move {part : TextPart} {seen : List Char} {literal : Literal}
    (stepped : textStep part seen c = .ok literal) :
    ∃ next more, literal = .text next more ∧ TextMove part c next := by
  cases part with
  | plain =>
    simp only [textStep] at stepped
    split at stepped
    next backslash =>
      cases stepped
      rw [beq_iff_eq.1 backslash]
      exact ⟨_, _, rfl, .escape⟩
    next backslash =>
      split at stepped
      next => cases stepped
      next control =>
        cases stepped
        exact ⟨_, _, rfl, .plain (Nat.le_of_not_lt control) fun same => backslash (beq_iff_eq.2 same)⟩
  | escape =>
    simp only [textStep] at stepped
    split at stepped
    next letter =>
      cases stepped
      rw [beq_iff_eq.1 letter]
      exact ⟨_, _, rfl, .unit⟩
    next =>
      split at stepped
      next meant short =>
        cases stepped
        exact ⟨_, _, rfl, .letter short⟩
      next => cases stepped
  | unit high value bytes => exact unitStep_move stepped
  | lowHalf high =>
    simp only [textStep] at stepped
    split at stepped
    next backslash =>
      cases stepped
      rw [beq_iff_eq.1 backslash]
      exact ⟨_, _, rfl, .mark high⟩
    next => cases stepped
  | lowHalfMark high =>
    simp only [textStep] at stepped
    split at stepped
    next letter =>
      cases stepped
      rw [beq_iff_eq.1 letter]
      exact ⟨_, _, rfl, .secondUnit high⟩
    next => cases stepped

inductive LiteralMove : Literal → Char → Literal.Progress → Prop
  | letter (value : Json) (c : Char) (rest : List Char) :
      LiteralMove (.word value (c :: rest)) c (.goesOn (.word value rest))
  | lastLetter (value : Json) (c : Char) : LiteralMove (.word value [c]) c (.ends value)
  | digit {part next : NumberPart} {c : Char} (seen : List Char)
      (continues : part.next? c = some next) :
      LiteralMove (.number part seen) c (.goesOn (.number next (c :: seen)))
  | afterNumber (part : NumberPart) (seen : List Char) (c : Char) :
      LiteralMove (.number part seen) c (.endsBefore (numberValue seen))
  | text {part next : TextPart} {c : Char} (seen more : List Char) (inside : part = .plain → c ≠ '"')
      (move : TextMove part c next) :
      LiteralMove (.text part seen) c (.goesOn (.text next more))
  | quote (seen : List Char) (content : String) :
      LiteralMove (.text .plain seen) '"' (.ends (.text content))

theorem literal_move {literal : Literal} {progress : Literal.Progress}
    (stepped : literal.step c = .ok progress) : LiteralMove literal c progress := by
  cases literal with
  | word value rest =>
    cases rest with
    | nil => cases stepped
    | cons expected rest =>
      simp only [Literal.step, ne_eq, ite_not] at stepped
      split at stepped
      next same =>
        subst same
        cases rest <;> cases stepped
        · exact .lastLetter value c
        · exact .letter value c _
      next => cases stepped
  | number part seen =>
    simp only [Literal.step, numberStep] at stepped
    split at stepped
    next next continues =>
      cases stepped
      exact .digit seen continues
    next =>
      split at stepped
      next =>
        cases stepped
        exact .afterNumber part seen c
      next => cases stepped
  | text part seen =>
    by_cases closing : part = .plain ∧ c = '"'
    · obtain ⟨rfl, rfl⟩ := closing
      cases stepped
      exact .quote seen _
    · rw [Literal.step] at stepped
      · obtain ⟨literal, moved, rfl⟩ := map_ok stepped
        obtain ⟨next, more, rfl, move⟩ := textStep_move moved
        exact .text seen more (fun plain quote => closing ⟨plain, quote⟩) move
      · rintro rfl rfl
        exact closing ⟨rfl, rfl⟩

inductive Advance (limits : Limits) : Reader → Char → Reader → Prop
  | outside {state : State} {c : Char} {next : Reader} (move : Move state c next) :
      Advance limits ⟨none, state⟩ c next
  | goesOn {literal further : Literal} {c : Char} (state : State)
      (progress : LiteralMove literal c (.goesOn further)) :
      Advance limits ⟨some literal, state⟩ c ⟨some further, state⟩
  | ends {literal : Literal} {state left : State} {c : Char} {value : Json}
      (progress : LiteralMove literal c (.ends value)) (taken : state.take limits value = .ok left) :
      Advance limits ⟨some literal, state⟩ c ⟨none, left⟩
  | endsBefore {literal : Literal} {state left : State} {c : Char} {value : Json} {next : Reader}
      (progress : LiteralMove literal c (.endsBefore value))
      (taken : state.take limits value = .ok left) (move : Move left c next) :
      Advance limits ⟨some literal, state⟩ c next

theorem step_advance {reader : Reader} (stepped : reader.step limits c = .ok next) :
    Advance limits reader c next := by
  obtain ⟨begun, state⟩ := reader
  cases begun with
  | none => exact .outside (step_move stepped)
  | some literal =>
    simp only [Reader.step] at stepped
    cases progress : literal.step c with
    | error cause =>
      rw [progress] at stepped
      cases stepped
    | ok progressed =>
      rw [progress] at stepped
      cases progressed with
      | goesOn further =>
        cases stepped
        exact .goesOn state (literal_move progress)
      | ends value =>
        obtain ⟨left, taken, rfl⟩ := map_ok stepped
        exact .ends (literal_move progress) taken
      | endsBefore value =>
        change (do (← state.take limits value).step limits c) = .ok next at stepped
        cases taken : state.take limits value with
        | error cause =>
          rw [taken] at stepped
          cases stepped
        | ok left =>
          rw [taken] at stepped
          exact .endsBefore (literal_move progress) taken (step_move stepped)

end Moves

end Inquiry.Json
