import Inquiry.Proofs.Json.Shape

/-! Only two braces, and blanks, are read as an object without entries. -/
namespace Inquiry.Json

def AwaitsValue (stack : List Frame) : Prop :=
  ∃ inner entries key, stack = inner ++ [.object entries key]

def State.HasKey : State → Prop
  | .value _ stack => AwaitsValue stack
  | .field _ entries stack => stack = [] ∧ entries ≠ [] ∨ AwaitsValue stack
  | .colon _ _ stack => stack = [] ∨ AwaitsValue stack
  | .after held stack => stack = [] ∧ held ≠ .object [] ∨ AwaitsValue stack

def Reader.HasKey (reader : Reader) : Prop :=
  reader.state.HasKey ∨ ∃ part seen orClose entries,
    reader = ⟨some (.text part seen), .field orClose entries []⟩

section Keys

variable {limits : Limits} {state left : State} {reader next : Reader} {c : Char} {value : Json}
  {stack : List Frame}

theorem AwaitsValue.under (awaits : AwaitsValue stack) (frame : Frame) : AwaitsValue (frame :: stack) := by
  obtain ⟨inner, entries, key, rfl⟩ := awaits
  exact ⟨frame :: inner, entries, key, rfl⟩

/-- Above a list there is more. -/
theorem AwaitsValue.list {items : List Json} (awaits : AwaitsValue (.list items :: stack)) :
    AwaitsValue stack := by
  obtain ⟨inner, entries, key, shape⟩ := awaits
  cases inner with
  | nil => cases (List.cons.inj shape).1
  | cons frame inner => exact ⟨inner, entries, key, (List.cons.inj shape).2⟩

theorem AwaitsValue.object {entries : List (String × Json)} {key : String}
    (awaits : AwaitsValue (.object entries key :: stack)) : stack = [] ∨ AwaitsValue stack := by
  obtain ⟨inner, outer, name, shape⟩ := awaits
  cases inner with
  | nil => exact .inl (List.cons.inj shape).2
  | cons frame inner => exact .inr ⟨inner, outer, name, (List.cons.inj shape).2⟩

theorem awaitsValue_object (entries : List (String × Json)) (key : String)
    (within : stack = [] ∨ AwaitsValue stack) : AwaitsValue (.object entries key :: stack) := by
  rcases within with rfl | awaits
  · exact ⟨[], entries, key, rfl⟩
  · exact awaits.under _

theorem awaitsValue_nil : ¬ AwaitsValue [] := by
  rintro ⟨inner, entries, key, shape⟩
  cases inner <;> cases shape

theorem Move.hasKey (move : Move state c next) (known : state.HasKey) : next.HasKey := by
  cases move with
  | blank | literal | key => exact .inl known
  | colon key entries stack => exact .inl (awaitsValue_object entries key known)
  | openList orClose stack => exact .inl (AwaitsValue.under known _)
  | openObject orClose stack => exact .inl (.inr known)
  | nextItem value items stack =>
    rcases known with ⟨outermost, _⟩ | awaits
    · cases outermost
    · exact .inl (awaits.list.under _)
  | nextEntry value entries key stack =>
    rcases known with ⟨outermost, _⟩ | awaits
    · cases outermost
    · exact .inl (awaits.object.imp_left fun last => ⟨last, by simp⟩)
  | closeEmptyList items stack => exact .inl (.inr (AwaitsValue.list known))
  | closeEmptyObject entries stack =>
    refine .inl (known.imp_left fun filled => ⟨filled.1, ?_⟩)
    simpa using filled.2
  | closeList value items stack =>
    rcases known with ⟨outermost, _⟩ | awaits
    · cases outermost
    · exact .inl (.inr awaits.list)
  | closeObject value entries key stack =>
    rcases known with ⟨outermost, _⟩ | awaits
    · cases outermost
    · refine .inl (awaits.object.imp_left fun last => ⟨last, ?_⟩)
      simp

theorem take_hasKey (known : state.HasKey) (taken : state.take limits value = .ok left) :
    left.HasKey := by
  cases state with
  | value orClose stack =>
    simp only [State.take] at taken
    split at taken <;> cases taken
    exact .inr known
  | field orClose entries stack =>
    cases value <;> cases taken <;> first | exact known | exact known.imp_left And.left
  | colon key entries stack => cases value <;> cases taken <;> exact known
  | after held stack => cases value <;> cases taken <;> exact known

theorem Advance.hasKey (advance : Advance limits reader c next) (known : reader.HasKey) :
    next.HasKey := by
  rcases known with known | ⟨part, seen, orClose, entries, rfl⟩
  · cases advance with
    | outside move => exact move.hasKey known
    | goesOn => exact .inl known
    | ends progress taken => exact .inl (take_hasKey known taken)
    | endsBefore progress taken move => exact move.hasKey (take_hasKey known taken)
  · cases advance with
    | goesOn state progress =>
      cases progress with
      | text seen more inside move => exact .inr ⟨_, more, orClose, entries, rfl⟩
    | ends progress taken =>
      cases progress with
      | quote seen content =>
        cases taken
        exact .inl (.inl rfl)
    | endsBefore progress => cases progress

theorem finish_hasKey (known : reader.HasKey) (finished : reader.finish limits = .ok value) :
    value ≠ .object [] := by
  rcases finish_inv finished with rfl | ⟨part, seen, literal, taken⟩
  · rcases known with known | ⟨_, _, _, _, same⟩
    · exact known.elim And.right fun awaits => absurd awaits awaitsValue_nil
    · cases same
  · rcases known with known | ⟨_, _, _, _, rfl⟩
    · exact (take_hasKey known taken).elim And.right fun awaits => absurd awaits awaitsValue_nil
    · cases literal

/-- Once a key has been begun the whole is no empty object. -/
theorem accepts_hasKey {text : List Char} (known : reader.HasKey)
    (accepts : reader.Accepts limits text value) : value ≠ .object [] := by
  induction text generalizing reader with
  | nil => exact finish_hasKey known (Reader.accepts_nil.1 accepts)
  | cons c rest ih =>
    obtain ⟨next, stepped, accepts⟩ := Reader.accepts_cons.1 accepts
    exact ih ((step_advance stepped).hasKey known) accepts

/-- After an opening brace. -/
theorem accepts_empty {text : List Char}
    (accepts : Reader.Accepts limits ⟨none, .field true [] []⟩ text (.object [])) :
    ∃ gap back, text = gap ++ '\x7d' :: back ∧ IsGap gap ∧ IsGap back := by
  induction text with
  | nil =>
    rcases finish_inv (Reader.accepts_nil.1 accepts) with same | ⟨part, seen, same, _⟩ <;> cases same
  | cons c rest ih =>
    obtain ⟨next, stepped, accepts⟩ := Reader.accepts_cons.1 accepts
    cases step_advance stepped with
    | outside move =>
      cases move with
      | blank state blank =>
        obtain ⟨gap, back, rfl, blankGap, blankBack⟩ := ih accepts
        exact ⟨c :: gap, back, rfl, gap_cons blank blankGap, blankBack⟩
      | key => exact absurd rfl (accepts_hasKey (.inr ⟨_, _, _, _, rfl⟩) accepts)
      | closeEmptyObject => exact ⟨[], rest, rfl, gap_nil, (complete_accepts accepts).1⟩

end Keys

theorem read_empty {text : List Char} (read : Json.read text = .ok (.object [])) :
    ∃ front gap back, text = front ++ '\x7b' :: (gap ++ '\x7d' :: back) ∧ IsGap front ∧ IsGap gap ∧
      IsGap back := by
  obtain ⟨front, c, rest, next, rfl, blank, accepts, begun⟩ := accepts_begin (read_ok.1 read)
  rcases begun with plain | ⟨list, _⟩ | ⟨_, rfl, rfl⟩
  · cases plain
  · cases list
  · obtain ⟨gap, back, rfl, blankGap, blankBack⟩ := accepts_empty accepts
    exact ⟨front, gap, back, rfl, blank, blankGap, blankBack⟩

end Inquiry.Json
