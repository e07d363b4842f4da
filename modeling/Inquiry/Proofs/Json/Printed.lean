import Inquiry.Proofs.Json.Token

/-! What is written in strict JSON is read, and read as what it stands for. -/
namespace Inquiry.Json

/-- A complete value, which the reader has taken or will take at the next character. -/
inductive Reader.Holds : Reader → Json → List Frame → Prop
  | taken (value : Json) (stack : List Frame) : Holds ⟨none, .after value stack⟩ value stack
  | number {part : NumberPart} {seen : List Char} (orClose : Bool) (stack : List Frame)
      (complete : part.isLast = true) (inRange : numberValue seen ≠ .number .beyond) :
      Holds (inNumber part seen (.value orClose stack)) (numberValue seen) stack

section Values

variable {limits : Limits} {reader : Reader} {value : Json} {stack : List Frame} {c : Char}

def EndsNumber (c : Char) : Prop := isBlank c = true ∨ c = ',' ∨ c = ']' ∨ c = '\x7d'

theorem EndsNumber.next? {part : NumberPart} (ends : EndsNumber c) :
    part.next? c = none ∧ c.isDigit = false := by
  rcases ends with blank | rfl | rfl | rfl
  · rcases blank_iff.1 blank with rfl | rfl | rfl | rfl <;> cases part <;> exact ⟨rfl, rfl⟩
  all_goals cases part <;> exact ⟨rfl, rfl⟩

theorem take_number {orClose : Bool} {seen : List Char}
    (inRange : numberValue seen ≠ .number .beyond) :
    State.take limits (.value orClose stack) (numberValue seen) =
      .ok (.after (numberValue seen) stack) := by
  have small : limits.tooLarge (numberValue seen) = false := by
    unfold Limits.tooLarge
    split
    next same => exact absurd same inRange
    next => rfl
  unfold numberValue at small ⊢
  simp [State.take, small]

theorem Reader.Holds.step (holds : reader.Holds value stack) (ends : EndsNumber c) :
    reader.step limits c = (State.after value stack).step limits c := by
  cases holds with
  | taken => rfl
  | @number part seen orClose stack complete inRange =>
    obtain ⟨stops, notDigit⟩ : part.next? c = none ∧ c.isDigit = false := ends.next?
    simp only [inNumber, Reader.step, Literal.step, numberStep, stops, complete, notDigit,
      Bool.and_false, Bool.not_false, Bool.and_self, if_true]
    change (do (← State.take limits (.value orClose stack) _).step limits c) = _
    rw [take_number inRange]
    rfl

theorem Reader.Holds.finish (holds : reader.Holds value []) : reader.finish limits = .ok value := by
  cases holds with
  | taken => rfl
  | number orClose stack complete inRange =>
    simp only [inNumber, Reader.finish, Literal.finish, complete, if_true]
    change (do (← State.take limits (.value orClose []) _).finish) = _
    rw [take_number inRange]
    rfl

theorem Reader.Holds.after_gap (holds : reader.Holds value stack) {gap : List Char}
    (blank : IsGap gap) :
    ∃ next, reader.after limits gap = .ok next ∧ next.Holds value stack := by
  cases gap with
  | nil => exact ⟨reader, rfl, holds⟩
  | cons c rest =>
    have first : reader.step limits c = .ok ⟨none, .after value stack⟩ := by
      rw [holds.step (.inl blank.head)]
      exact @step_blank limits _ _ blank.head
    refine ⟨_, ?_, .taken value stack⟩
    rw [Reader.after_cons first]
    exact after_blanks blank.tail

/-- What reading a phrase of strict JSON does, as long as the nesting stays within its limit. -/
def Phrase.ReadsAs (limits : Limits) (text : List Char) : Phrase → Prop
  | .value meant | .element meant | .member meant =>
    ∀ orClose stack, stack.length + meant.depth ≤ maxDepth →
      ∃ next, Reader.after limits ⟨none, .value orClose stack⟩ text = .ok next ∧
        next.Holds meant stack
  | .items values =>
    ∀ orClose known stack, stack.length + 1 + depthOfItems values ≤ maxDepth →
      ∃ next front last, values = front ++ [last] ∧
        Reader.after limits ⟨none, .value orClose (.list known :: stack)⟩ text = .ok next ∧
        next.Holds last (.list (front.reverse ++ known) :: stack)
  | .entries fields =>
    ∀ orClose known stack, stack.length + 1 + depthOfEntries fields ≤ maxDepth →
      ∃ next front name last, fields = front ++ [(name, last)] ∧
        Reader.after limits ⟨none, .field orClose known stack⟩ text = .ok next ∧
        next.Holds last (.object (front.reverse ++ known) name :: stack)

theorem after_word {orClose : Bool} {text : List Char} {first : Char}
    (begun : Reader.step limits ⟨none, .value orClose stack⟩ first =
      .ok ⟨some (.word value text), .value orClose stack⟩)
    (nonempty : text ≠ []) (simple : ∀ number, value ≠ .number number) :
    Reader.after limits ⟨none, .value orClose stack⟩ (first :: text) =
      .ok ⟨none, .after value stack⟩ := by
  rw [Reader.after_cons begun]
  clear begun
  induction text with
  | nil => exact absurd rfl nonempty
  | cons c rest ih =>
    cases rest with
    | nil =>
      have taken : State.take limits (.value orClose stack) value = .ok (.after value stack) := by
        have small : limits.tooLarge value = false := by
          unfold Limits.tooLarge
          split
          next same => exact absurd rfl (simple _)
          next => rfl
        simp [State.take, small]
      have ended : Reader.step limits ⟨some (.word value [c]), .value orClose stack⟩ c =
          .ok ⟨none, .after value stack⟩ := by
        simp only [Reader.step, Literal.step, ne_eq, not_true_eq_false, if_false,
          List.isEmpty_nil, if_true]
        change (do return Reader.mk none (← State.take limits (.value orClose stack) value)) = _
        rw [taken]
        rfl
      rw [Reader.after_cons ended]
      rfl
    | cons d more =>
      have further : Reader.step limits ⟨some (.word value (c :: d :: more)), .value orClose stack⟩
          c = .ok ⟨some (.word value (d :: more)), .value orClose stack⟩ := by
        simp only [Reader.step, Literal.step, ne_eq, not_true_eq_false, if_false,
          List.isEmpty_cons, Bool.false_eq_true]
        rfl
      rw [Reader.after_cons further]
      exact ih (by simp)

theorem after_quoted {state after : State} {content : String} {body : List Char}
    (opened : Reader.step limits ⟨none, state⟩ '"' = .ok (inText .plain [] state))
    (taken : state.take limits (.text content) = .ok after)
    (spelt : Spells '"' content.toList body) :
    Reader.after limits ⟨none, state⟩ ('"' :: (body ++ ['"'])) = .ok ⟨none, after⟩ := by
  have closed : (inText .plain (content.toList.reverse ++ []) state).step limits '"' =
      .ok ⟨none, after⟩ := by
    have content_eq : String.ofList (content.toList.reverse ++ []).reverse = content := by simp
    simp only [inText, Reader.step, Literal.step, content_eq]
    change (do return Reader.mk none (← state.take limits (.text content))) = _
    rw [taken]
    rfl
  rw [Reader.after_cons opened, Reader.after_snoc (after_spelt spelt), closed]

theorem opened_ok {state : State} (shallow : stack.length + 1 ≤ maxDepth) :
    opened limits stack state = .ok state := by
  have deep : ¬ maxDepth ≤ stack.length := by omega
  simp [opened, Limits.tooDeep, deep]

theorem step_list (orClose : Bool) (shallow : stack.length + 1 ≤ maxDepth) :
    Reader.step limits ⟨none, .value orClose stack⟩ '[' =
      .ok ⟨none, .value true (.list [] :: stack)⟩ := by
  change (opened limits stack _).map _ = _
  rw [opened_ok shallow]
  rfl

theorem step_object (orClose : Bool) (shallow : stack.length + 1 ≤ maxDepth) :
    Reader.step limits ⟨none, .value orClose stack⟩ '\x7b' = .ok ⟨none, .field true [] stack⟩ := by
  change (opened limits stack _).map _ = _
  rw [opened_ok shallow]
  rfl

theorem after_label {orClose : Bool} {known : List (String × Json)} {name : String}
    {label : List Char} (labelled : Label .strict name label) :
    Reader.after limits ⟨none, .field orClose known stack⟩ label =
      .ok ⟨none, .value false (.object known name :: stack)⟩ := by
  obtain ⟨blankBefore, blankGap, named⟩ := labelled
  cases named with
  | bare shell => cases shell
  | quoted quoted =>
    cases quoted with
    | single shell => cases shell
    | double spelt =>
      have key := @after_quoted limits (.field orClose known stack) _ _ _ rfl rfl spelt
      rw [List.append_assoc, List.append_assoc, Reader.after_append (after_blanks blankBefore),
        Reader.after_append key, Reader.after_append (after_blanks blankGap)]
      rfl

theorem Prints.readsAs (limits : Limits) {phrase : Phrase} {text : List Char}
    (prints : Prints .strict phrase text) : phrase.ReadsAs limits text := by
  induction prints with
  | null =>
    intro orClose stack _
    exact ⟨_, after_word rfl (by decide) (by simp), .taken _ _⟩
  | yes =>
    intro orClose stack _
    exact ⟨_, after_word rfl (by decide) (by simp), .taken _ _⟩
  | no =>
    intro orClose stack _
    exact ⟨_, after_word rfl (by decide) (by simp), .taken _ _⟩
  | @number literal number inRange =>
    intro orClose stack _
    obtain ⟨part, complete, run⟩ := @after_number limits _ orClose stack number
    obtain ⟨value, read⟩ := ofLiteral_some number
    have meant : numberValue literal.reverse =
        .number ((Number.ofLiteral? literal).getD .beyond) := by simp [numberValue]
    have finite : numberValue literal.reverse ≠ .number .beyond := by
      rw [meant, read]
      intro same
      exact inRange (read.trans (congrArg some (Json.number.inj same)))
    exact ⟨_, run, meant ▸ .number orClose stack complete finite⟩
  | text quoted =>
    intro orClose stack _
    cases quoted with
    | single shell => cases shell
    | double spelt => exact ⟨_, after_quoted rfl rfl spelt, .taken _ _⟩
  | noItems blank =>
    intro orClose stack shallow
    have nested : stack.length + 1 ≤ maxDepth := by simpa [depth, depthOfItems] using shallow
    refine ⟨_, ?_, .taken _ _⟩
    rw [Reader.after_cons (step_list orClose nested), Reader.after_append (after_blanks blank)]
    rfl
  | list inner closed ih =>
    intro orClose stack shallow
    rcases closed with rfl | ⟨shell, _⟩
    · have nested := shallow
      rw [depth] at nested
      obtain ⟨next, front, last, rfl, run, holds⟩ := ih true [] stack (by omega)
      refine ⟨_, ?_, .taken _ _⟩
      rw [Reader.after_cons (step_list orClose (by omega)), List.append_nil, Reader.after_snoc run,
        holds.step (.inr (.inr (.inl rfl)))]
      simp [State.step, isBlank, afterValue, Except.map]
    · cases shell
  | noEntries blank =>
    intro orClose stack shallow
    have nested : stack.length + 1 ≤ maxDepth := by simpa [depth, depthOfEntries] using shallow
    refine ⟨_, ?_, .taken _ _⟩
    rw [Reader.after_cons (step_object orClose nested), Reader.after_append (after_blanks blank)]
    rfl
  | object inner closed ih =>
    intro orClose stack shallow
    rcases closed with rfl | ⟨shell, _⟩
    · have nested := shallow
      rw [depth] at nested
      obtain ⟨next, front, name, last, rfl, run, holds⟩ := ih true [] stack (by omega)
      refine ⟨_, ?_, .taken _ _⟩
      rw [Reader.after_cons (step_object orClose (by omega)), List.append_nil, Reader.after_snoc run,
        holds.step (.inr (.inr (.inr rfl)))]
      simp [State.step, isBlank, afterValue, Except.map]
    · cases shell
  | plain inner ih => exact ih
  | pattern shell => cases shell
  | member blankBefore blankAfter inner ih =>
    intro orClose stack shallow
    obtain ⟨next, run, holds⟩ := ih orClose stack shallow
    obtain ⟨last, gap, holds⟩ := holds.after_gap blankAfter
    refine ⟨last, ?_, holds⟩
    rw [List.append_assoc, Reader.after_append (after_blanks blankBefore), Reader.after_append run,
      gap]
  | lastItem inner ih =>
    intro orClose known stack shallow
    obtain ⟨next, run, holds⟩ := ih orClose (.list known :: stack) (by
      simpa [depthOfItems] using shallow)
    exact ⟨next, [], _, rfl, run, holds⟩
  | nextItem inner more ih ihMore =>
    intro orClose known stack shallow
    rw [depthOfItems] at shallow
    obtain ⟨next, run, holds⟩ := ih orClose (.list known :: stack) (by
      rw [List.length_cons]; omega)
    obtain ⟨final, front, last, rfl, rest, holdsLast⟩ := ihMore false (_ :: known) stack (by omega)
    refine ⟨final, _ :: front, last, rfl, ?_, by simpa using holdsLast⟩
    rw [Reader.after_append run, ← rest]
    refine Reader.after_cons ?_
    rw [holds.step (.inr (.inl rfl))]
    rfl
  | lastEntry labelled inner ih =>
    intro orClose known stack shallow
    obtain ⟨next, run, holds⟩ := ih false (.object known _ :: stack) (by
      simpa [depthOfEntries] using shallow)
    refine ⟨next, [], _, _, rfl, ?_, holds⟩
    rw [Reader.after_append (after_label labelled), run]
  | nextEntry labelled inner more ih ihMore =>
    intro orClose known stack shallow
    rw [depthOfEntries] at shallow
    obtain ⟨next, run, holds⟩ := ih false (.object known _ :: stack) (by
      rw [List.length_cons]; omega)
    obtain ⟨final, front, name, last, rfl, rest, holdsLast⟩ := ihMore false (_ :: known) stack (by
      omega)
    refine ⟨final, _ :: front, name, last, rfl, ?_, by simpa using holdsLast⟩
    rw [List.append_assoc, Reader.after_append (after_label labelled), Reader.after_append run, ← rest]
    refine Reader.after_cons ?_
    rw [holds.step (.inr (.inl rfl))]
    rfl

end Values

theorem IsText.accepts (limits : Limits) {value : Json} {text : List Char}
    (isText : IsText .strict value text) (shallow : value.depth ≤ maxDepth) :
    Reader.start.Accepts limits text value := by
  obtain ⟨before, body, after, rfl, blankBefore, blankAfter, prints⟩ := isText
  obtain ⟨next, run, holds⟩ := prints.readsAs limits false [] (by simpa using shallow)
  obtain ⟨last, gap, holds⟩ := holds.after_gap blankAfter
  refine ⟨last, ?_, holds.finish⟩
  rw [List.append_assoc, Reader.start, Reader.after_append (after_blanks blankBefore),
    Reader.after_append run, gap]

/-- A text of strict JSON is read as the value that it holds. -/
theorem IsText.read {value : Json} {text : List Char} (isText : IsText .strict value text)
    (shallow : value.depth ≤ maxDepth) : Json.read text = .ok value :=
  read_ok.2 (isText.accepts .usual shallow)

theorem IsText.parse {value : Json} {text : List Char} (isText : IsText .strict value text)
    (shallow : value.depth ≤ maxDepth) : Json.parse? text = some value := by
  rw [parse?, (Reader.run_ok .start).2 (isText.accepts .none shallow)]
  rfl

end Inquiry.Json
