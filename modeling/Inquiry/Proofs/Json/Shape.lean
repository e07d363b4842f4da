import Inquiry.Proofs.Json.Move

/-! The first token of a text that is taken tells whether its value is a list or an object. -/
namespace Inquiry.Json

section Shapes

variable {limits : Limits} {reader next : Reader} {state left : State} {value : Json}
  {whole : Shape} {c : Char}

def Frame.shape : Frame → Shape
  | .list _ => .list
  | .object _ _ => .object

def outermost (inner : Shape) (stack : List Frame) : Shape :=
  (stack.getLast?.map Frame.shape).getD inner

def State.Within (whole : Shape) : State → Prop
  | .value _ stack => stack ≠ [] ∧ outermost .plain stack = whole
  | .field _ _ stack | .colon _ _ stack => outermost .object stack = whole
  | .after value stack => outermost value.shape stack = whole

theorem outermost_cons (inner : Shape) (frame : Frame) (stack : List Frame) :
    outermost inner (frame :: stack) = outermost frame.shape stack := by
  rw [outermost, outermost, List.getLast?_cons]
  cases stack.getLast? <;> rfl

theorem outermost_inner {stack : List Frame} (nonempty : stack ≠ []) (first second : Shape) :
    outermost first stack = outermost second stack := by
  obtain ⟨frame, rest, rfl⟩ := List.exists_cons_of_ne_nil nonempty
  rw [outermost_cons, outermost_cons]

theorem take_within (within : state.Within whole) (taken : state.take limits value = .ok left) :
    left.Within whole := by
  cases state with
  | value orClose stack =>
    simp only [State.take] at taken
    split at taken
    next => cases taken
    next =>
      cases taken
      exact (outermost_inner within.1 _ _).trans within.2
  | field orClose entries stack => cases value <;> cases taken <;> exact within
  | colon key entries stack => cases value <;> cases taken <;> exact within
  | after known stack => cases value <;> cases taken <;> exact within

theorem Move.within (move : Move state c next) (within : state.Within whole) :
    next.state.Within whole := by
  cases move with
  | blank => exact within
  | literal => exact within
  | key => exact within
  | colon key entries stack => exact ⟨by simp, (outermost_cons _ _ _).trans within⟩
  | openList orClose stack =>
    refine ⟨by simp, ?_⟩
    rw [outermost_cons, ← within.2]
    exact outermost_inner within.1 _ _
  | openObject orClose stack => exact (outermost_inner within.1 _ _).trans within.2
  | nextItem value items stack =>
    refine ⟨by simp, ?_⟩
    rw [State.Within, outermost_cons] at within
    rw [outermost_cons]
    exact within
  | nextEntry value entries key stack => exact (outermost_cons _ _ _).symm.trans within
  | closeEmptyList items stack => exact (outermost_cons _ _ _).symm.trans within.2
  | closeEmptyObject entries stack => exact within
  | closeList value items stack => exact (outermost_cons _ _ _).symm.trans within
  | closeObject value entries key stack => exact (outermost_cons _ _ _).symm.trans within

theorem Advance.within (advance : Advance limits reader c next)
    (within : reader.state.Within whole) : next.state.Within whole := by
  cases advance with
  | outside move => exact move.within within
  | goesOn => exact within
  | ends progress taken => exact take_within within taken
  | endsBefore progress taken move => exact move.within (take_within within taken)

theorem finish_after (finished : state.finish = .ok value) : state = .after value [] := by
  cases state with
  | value orClose stack =>
    cases stack with
    | nil => cases orClose <;> cases finished
    | cons frame stack => cases orClose <;> cases frame <;> cases finished
  | field orClose entries stack => cases orClose <;> cases finished
  | colon key entries stack => cases finished
  | after known stack =>
    cases stack with
    | nil =>
      cases finished
      rfl
    | cons frame stack => cases frame <;> cases finished

theorem finish_inv (finished : reader.finish limits = .ok value) :
    reader = ⟨none, .after value []⟩ ∨ ∃ part seen,
      reader.literal = some (.number part seen) ∧
        reader.state.take limits (numberValue seen) = .ok (.after value []) := by
  obtain ⟨literal, state⟩ := reader
  cases literal with
  | none => exact .inl (congrArg _ (finish_after finished))
  | some literal =>
    cases literal with
    | word => cases finished
    | text => cases finished
    | number part seen =>
      right
      refine ⟨part, seen, rfl, ?_⟩
      simp only [Reader.finish, Literal.finish] at finished
      split at finished
      next =>
        change (do (← state.take limits (numberValue seen)).finish) = .ok value at finished
        cases taken : state.take limits (numberValue seen) with
        | error cause =>
          rw [taken] at finished
          cases finished
        | ok left =>
          rw [taken] at finished
          exact congrArg _ (finish_after finished)
      next => cases finished

theorem within_finish (within : reader.state.Within whole)
    (finished : reader.finish limits = .ok value) : value.shape = whole := by
  rcases finish_inv finished with rfl | ⟨part, seen, _, taken⟩
  · exact within
  · exact take_within within taken

theorem within_accepts {text : List Char} (within : reader.state.Within whole)
    (accepts : reader.Accepts limits text value) : value.shape = whole := by
  induction text generalizing reader with
  | nil => exact within_finish within (Reader.accepts_nil.1 accepts)
  | cons c rest ih =>
    obtain ⟨next, stepped, accepts⟩ := Reader.accepts_cons.1 accepts
    exact ih ((step_advance stepped).within within) accepts

theorem LiteralMove.sound {literal : Literal} {progress : Literal.Progress}
    (move : LiteralMove literal c progress) (sound : literal.IsSound) :
    match progress with
    | .goesOn further => further.IsSound
    | .ends value | .endsBefore value => value.shape = .plain := by
  cases move with
  | letter value c rest => exact ⟨sound.1, fun d member => sound.2 d (List.mem_cons_of_mem _ member)⟩
  | lastLetter value c => exact sound.1
  | _ => trivial

/-- A literal that no container holds is the whole value. -/
theorem literal_accepts {text : List Char} {literal : Literal} {orClose : Bool}
    (sound : literal.IsSound)
    (accepts : Reader.Accepts limits ⟨some literal, .value orClose []⟩ text value) :
    value.shape = .plain := by
  have alone {meant : Json} {left : State} (plain : meant.shape = .plain)
      (taken : State.take limits (.value orClose []) meant = .ok left) : left.Within .plain := by
    simp only [State.take] at taken
    split at taken
    next => cases taken
    next =>
      cases taken
      exact plain
  induction text generalizing literal with
  | nil =>
    rcases finish_inv (Reader.accepts_nil.1 accepts) with same | ⟨part, seen, _, taken⟩
    · cases same
    · exact alone rfl taken
  | cons c rest ih =>
    obtain ⟨next, stepped, accepts⟩ := Reader.accepts_cons.1 accepts
    cases step_advance stepped with
    | goesOn state progress => exact ih (progress.sound sound) accepts
    | ends progress taken => exact within_accepts (alone (progress.sound sound) taken) accepts
    | endsBefore progress taken move =>
      exact within_accepts (move.within (alone (progress.sound sound) taken)) accepts

/-- The first token of a text tells the shape of its value. -/
theorem accepts_begin {text : List Char} {orClose : Bool}
    (accepts : Reader.Accepts limits ⟨none, .value orClose []⟩ text value) :
    ∃ gap c rest, ∃ next : Reader, text = gap ++ c :: rest ∧ IsGap gap ∧ next.Accepts limits rest value ∧
      (value.shape = .plain ∨
        value.shape = .list ∧ c = '[' ∧ next = ⟨none, .value true [.list []]⟩ ∨
        value.shape = .object ∧ c = '\x7b' ∧ next = ⟨none, .field true [] []⟩) := by
  induction text with
  | nil =>
    rcases finish_inv (Reader.accepts_nil.1 accepts) with same | ⟨part, seen, same, _⟩ <;> cases same
  | cons c rest ih =>
    obtain ⟨next, stepped, accepts⟩ := Reader.accepts_cons.1 accepts
    cases step_advance stepped with
    | outside move =>
      cases move with
      | blank state blank =>
        obtain ⟨gap, first, more, entered, rfl, gapBlank, begun⟩ := ih accepts
        exact ⟨c :: gap, first, more, entered, rfl, gap_cons blank gapBlank, begun⟩
      | literal orClose stack begun =>
        exact ⟨[], c, rest, _, rfl, gap_nil, accepts,
          .inl (literal_accepts (ofChar_sound begun) accepts)⟩
      | openList orClose stack =>
        have within : State.Within .list (.value true [.list []]) := ⟨by simp, rfl⟩
        exact ⟨[], '[', rest, _, rfl, gap_nil, accepts,
          .inr (.inl ⟨within_accepts within accepts, rfl, rfl⟩)⟩
      | openObject orClose stack =>
        have within : State.Within .object (.field true [] []) := rfl
        exact ⟨[], '\x7b', rest, _, rfl, gap_nil, accepts,
          .inr (.inr ⟨within_accepts within accepts, rfl, rfl⟩)⟩

/-- After a complete value only blanks can follow. -/
theorem complete_accepts {known : Json} {text : List Char}
    (accepts : Reader.Accepts limits ⟨none, .after known []⟩ text value) :
    IsGap text ∧ known = value := by
  induction text with
  | nil => exact ⟨gap_nil, Except.ok.inj (Reader.accepts_nil.1 accepts)⟩
  | cons c rest ih =>
    obtain ⟨next, stepped, accepts⟩ := Reader.accepts_cons.1 accepts
    cases step_advance stepped with
    | outside move =>
      cases move with
      | blank state blank =>
        obtain ⟨gap, same⟩ := ih accepts
        exact ⟨gap_cons blank gap, same⟩

end Shapes

end Inquiry.Json
