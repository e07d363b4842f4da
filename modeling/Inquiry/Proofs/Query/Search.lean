import Inquiry.Proofs.Query.Bracket

/-!
The searches for the end of an argument and for the end of a group. A search that has not ended
within a text goes on behind it from where it stands; one that has ended asks for nothing more.
-/
namespace Inquiry.Bracket

/-- What ends a search, and how deep it stands after a character that does not. -/
structure Search where
  ends : Quote → Nat → Char → Bool
  depth : Quote → Nat → Char → Nat

def Search.after? (search : Search) (quote : Quote) (depth : Nat) : List Char → Option (Quote × Nat)
  | [] => some (quote, depth)
  | c :: rest =>
    if search.ends quote depth c then none
    else search.after? (quote.next c) (search.depth quote depth c) rest

def isOpening (c : Char) : Bool := c == '\x7b' || c == '['

def isClosing (c : Char) : Bool := c == '\x7d' || c == ']'

def groupDepth (quote : Quote) (depth : Nat) (c : Char) : Nat :=
  if quote.sees c && isOpening c then depth + 1
  else if quote.sees c && isClosing c then depth - 1
  else depth

/-- Round brackets do not count in a group. -/
def groupSearch : Search where
  ends quote depth c := quote.sees c && isClosing c && depth == 0
  depth := groupDepth

def argumentSearch : Search where
  ends quote depth c := quote.sees c && (closes c || c == ',') && depth == 0
  depth := depthAfter

/-- The text before the bracket that closes the call, all of it where there is none. -/
def untilClose (quote : Quote) (depth : Nat) (text : List Char) : List Char :=
  match splitClose quote depth text with
  | some (inside, _) => inside
  | none => text

section Searches

variable {search : Search} {quote after : Quote} {depth inner : Nat} {text rest : List Char} {c : Char}

theorem after_cons (goesOn : search.ends quote depth c = false) :
    search.after? quote depth (c :: rest) =
      search.after? (quote.next c) (search.depth quote depth c) rest := by
  rw [Search.after?, goesOn, if_neg Bool.false_ne_true]

theorem after_append : search.after? quote depth (text ++ rest) =
    (search.after? quote depth text).bind fun (after, inner) => search.after? after inner rest := by
  induction text generalizing quote depth with
  | nil => rfl
  | cons c text ih =>
    rw [List.cons_append, Search.after?, Search.after?]
    split
    next => rfl
    next => exact ih

theorem after_on (stands : search.after? quote depth text = some (after, inner)) :
    search.after? quote depth (text ++ rest) = search.after? after inner rest := by
  rw [after_append, stands]
  rfl

theorem after_within {place : Quote × Nat}
    (stands : search.after? quote depth (text ++ rest) = some place) :
    ∃ after inner, search.after? quote depth text = some (after, inner) ∧
      search.after? after inner rest = some place := by
  rw [after_append] at stands
  obtain ⟨⟨after, inner⟩, first, second⟩ := Option.bind_eq_some_iff.1 stands
  exact ⟨after, inner, first, second⟩

theorem after_goesOn (stands : search.after? quote depth (c :: rest) = some (after, inner)) :
    search.ends quote depth c = false ∧
      search.after? (quote.next c) (search.depth quote depth c) rest = some (after, inner) := by
  rw [Search.after?] at stands
  split at stands
  next => cases stands
  next goesOn => exact ⟨Bool.eq_false_iff.2 goesOn, stands⟩

/-- All searches agree on what is quoted. -/
theorem after_quote (stands : search.after? quote depth text = some (after, inner)) :
    after = text.foldl Quote.next quote := by
  induction text generalizing quote depth with
  | nil =>
    cases stands
    rfl
  | cons c text ih => exact ih (after_goesOn stands).2

/-- A search ends at the first character that ends it. -/
theorem after_ended (ended : search.after? quote depth text = none) :
    ∃ front c back after inner, text = front ++ c :: back ∧
      search.after? quote depth front = some (after, inner) ∧ search.ends after inner c = true := by
  induction text generalizing quote depth with
  | nil => cases ended
  | cons c text ih =>
    rw [Search.after?] at ended
    split at ended
    next ends => exact ⟨[], c, text, quote, depth, rfl, rfl, ends⟩
    next goesOn =>
      obtain ⟨front, d, back, after, inner, rfl, stands, ends⟩ := ih ended
      refine ⟨c :: front, d, back, after, inner, rfl, ?_, ends⟩
      rw [after_cons (Bool.eq_false_iff.2 goesOn), stands]

end Searches

section Groups

variable {quote after : Quote} {depth inner : Nat} {text front rest group : List Char}
  {bracket c : Char}

theorem sees_next (sees : quote.sees c = true) : quote.next c = .outside := (sees_outside sees).2

theorem groupTail_end (ends : groupSearch.ends quote depth c = true) :
    groupTail? quote depth (c :: rest) = some [c] := by
  simp only [groupSearch, isClosing, Bool.and_eq_true, Bool.or_eq_true, beq_iff_eq] at ends
  obtain ⟨⟨sees, bracket⟩, rfl⟩ := ends
  rw [groupTail?.eq_def]
  rcases bracket with rfl | rfl <;> simp [sees]

theorem groupTail_cons (goesOn : groupSearch.ends quote depth c = false) :
    groupTail? quote depth (c :: rest) =
      (groupTail? (quote.next c) (groupDepth quote depth c) rest).map (c :: ·) := by
  by_cases opening : (quote.sees c && isOpening c) = true
  · rw [groupDepth, if_pos opening, sees_next (Bool.and_eq_true_iff.1 opening).1]
    exact groupTail_open opening
  by_cases closing : (quote.sees c && isClosing c) = true
  · rw [groupDepth, if_neg opening, if_pos closing, sees_next (Bool.and_eq_true_iff.1 closing).1]
    cases depth with
    | zero => simp [groupSearch, closing] at goesOn
    | succ outer =>
      unfold isOpening at opening
      unfold isClosing at closing
      rw [groupTail?, if_neg opening, if_pos closing]
      rfl
  · rw [groupDepth, if_neg opening, if_neg closing]
    exact groupTail_inside opening closing

theorem groupTail_on (stands : groupSearch.after? quote depth text = some (after, inner)) :
    groupTail? quote depth (text ++ rest) = (groupTail? after inner rest).map (text ++ ·) := by
  induction text generalizing quote depth with
  | nil =>
    cases stands
    simp
  | cons c text ih =>
    obtain ⟨goesOn, stands⟩ := after_goesOn stands
    rw [List.cons_append, groupTail_cons goesOn]
    change (groupTail? (quote.next c) (groupSearch.depth quote depth c) _).map _ = _
    rw [ih stands, Option.map_map]
    rfl

/-- A group is what the search passes over, and the bracket that ends the search. -/
theorem groupTail_found : groupTail? quote depth text = some group ↔
    ∃ front c back after inner, text = front ++ c :: back ∧ group = front ++ [c] ∧
      groupSearch.after? quote depth front = some (after, inner) ∧
      groupSearch.ends after inner c = true := by
  constructor
  · intro found
    cases stands : groupSearch.after? quote depth text with
    | some place =>
      have unread := @groupTail_on _ _ _ _ text [] stands
      rw [List.append_nil, found, groupTail?] at unread
      cases unread
    | none =>
      obtain ⟨front, c, back, after, inner, rfl, stands, ends⟩ := after_ended stands
      rw [groupTail_on stands, groupTail_end ends] at found
      exact ⟨front, c, back, after, inner, rfl, (Option.some.inj found).symm, stands, ends⟩
  · rintro ⟨front, c, back, after, inner, rfl, rfl, stands, ends⟩
    rw [groupTail_on stands, groupTail_end ends]
    rfl

theorem fromBracket_inv (found : fromBracket? bracket quote text = some rest) :
    ∃ front, text = front ++ bracket :: rest ∧ fromBracket? bracket quote front = none ∧
      front.foldl Quote.next quote = .outside := by
  induction text generalizing quote with
  | nil => cases found
  | cons c text ih =>
    rw [fromBracket?] at found
    split at found
    next seen =>
      simp only [Bool.and_eq_true, beq_iff_eq] at seen
      obtain ⟨sees, rfl⟩ := seen
      cases found
      exact ⟨[], rfl, rfl, (sees_outside sees).1⟩
    next unseen =>
      obtain ⟨front, rfl, unopened, outside⟩ := ih found
      refine ⟨c :: front, rfl, ?_, outside⟩
      rw [fromBracket?, if_neg unseen, unopened]

theorem fromBracket_on (unopened : fromBracket? bracket quote front = none) :
    fromBracket? bracket quote (front ++ rest) =
      fromBracket? bracket (front.foldl Quote.next quote) rest := by
  induction front generalizing quote with
  | nil => rfl
  | cons c front ih =>
    rw [fromBracket?] at unopened
    split at unopened
    next => cases unopened
    next unseen =>
      rw [List.cons_append, fromBracket?, if_neg unseen, ih unopened]
      rfl

end Groups

section Arguments

variable {quote after : Quote} {depth inner : Nat} {text rest : List Char} {c : Char}

theorem splitClose_cons (goesOn : argumentSearch.ends quote depth c = false) :
    splitClose quote depth (c :: rest) =
      (splitClose (quote.next c) (depthAfter quote depth c) rest).map fun (inside, after) =>
        (c :: inside, after) := by
  have inside : ¬ (quote.sees c && closes c && depth == 0) = true := by
    intro closing
    simp only [Bool.and_eq_true] at closing
    simp [argumentSearch, closing] at goesOn
  rw [splitClose, if_neg inside]

theorem pieces_pass (inside : ¬ (quote.sees c && c == ',' && depth == 0) = true) :
    pieces quote depth (c :: rest) =
      (pieces (quote.next c) (depthAfter quote depth c) rest).modifyHead (c :: ·) := by
  have nonempty : pieces (quote.next c) (depthAfter quote depth c) rest ≠ [] := by
    cases rest with
    | nil => simp [pieces]
    | cons d rest =>
      rw [pieces]
      split
      next => simp
      next => split <;> simp
  obtain ⟨first, others, shape⟩ := List.exists_cons_of_ne_nil nonempty
  rw [pieces, if_neg inside, shape]
  rfl

theorem pieces_cons (goesOn : argumentSearch.ends quote depth c = false) :
    pieces quote depth (c :: rest) =
      (pieces (quote.next c) (depthAfter quote depth c) rest).modifyHead (c :: ·) := by
  refine pieces_pass fun comma => ?_
  simp only [Bool.and_eq_true] at comma
  simp [argumentSearch, comma] at goesOn

theorem splitClose_on (stands : argumentSearch.after? quote depth text = some (after, inner)) :
    splitClose quote depth (text ++ rest) =
      (splitClose after inner rest).map fun (inside, after) => (text ++ inside, after) := by
  induction text generalizing quote depth with
  | nil =>
    cases stands
    simp
  | cons c text ih =>
    obtain ⟨goesOn, stands⟩ := after_goesOn stands
    rw [List.cons_append, splitClose_cons goesOn]
    change (splitClose (quote.next c) (argumentSearch.depth quote depth c) _).map _ = _
    rw [ih stands, Option.map_map]
    rfl

theorem pieces_on (stands : argumentSearch.after? quote depth text = some (after, inner)) :
    pieces quote depth (text ++ rest) = (pieces after inner rest).modifyHead (text ++ ·) := by
  induction text generalizing quote depth with
  | nil =>
    cases stands
    rw [List.nil_append]
    cases pieces after inner rest <;> rfl
  | cons c text ih =>
    obtain ⟨goesOn, stands⟩ := after_goesOn stands
    rw [List.cons_append, pieces_cons goesOn]
    change (pieces (quote.next c) (argumentSearch.depth quote depth c) _).modifyHead _ = _
    rw [ih stands, List.modifyHead_modifyHead]
    rfl

/-- Where nothing ends the argument there is one piece. -/
theorem pieces_whole (stands : argumentSearch.after? quote depth text = some (after, inner)) :
    pieces quote depth text = [text] := by
  have whole := @pieces_on _ _ _ _ text [] stands
  simpa [pieces] using whole

/-- The first piece of the arguments is what the search for the end of an argument passes over. -/
theorem pieces_first {back : List Char}
    (stands : argumentSearch.after? quote depth text = some (after, inner))
    (ends : argumentSearch.ends after inner c = true) :
    ∃ others, pieces quote depth (untilClose quote depth (text ++ c :: back)) = text :: others := by
  simp only [argumentSearch, Bool.and_eq_true, Bool.or_eq_true, beq_iff_eq] at ends
  obtain ⟨⟨sees, closing | rfl⟩, rfl⟩ := ends
  · have closed : splitClose quote depth (text ++ c :: back) = some (text, back) := by
      rw [splitClose_on stands, splitClose]
      simp [sees, closing]
    rw [untilClose, closed]
    exact ⟨[], pieces_whole stands⟩
  · have comma (more : List Char) :
        ∃ others, pieces quote depth (text ++ ',' :: more) = text :: others := by
      rw [pieces_on stands, pieces]
      simp [sees]
    have passed : splitClose after 0 (',' :: back) =
        (splitClose (after.next ',') 0 back).map fun (inside, after) => (',' :: inside, after) := by
      rw [splitClose]
      simp [closes, depthAfter, opens]
    rw [untilClose, splitClose_on stands, passed]
    cases splitClose (after.next ',') 0 back with
    | none => exact comma back
    | some parts => exact comma parts.1

end Arguments

section Accepted

variable {limits : Json.Limits} {reader : Json.Reader} {quote : Quote} {depth : Nat} {value : Json}
  {text : List Char}

/-- Nothing in a text that the reader takes ends an argument. -/
theorem after_accepted (tracks : Tracks reader quote depth)
    (accepts : reader.Accepts limits text value) :
    argumentSearch.after? quote depth text = some (.outside, 0) := by
  induction text generalizing reader quote depth with
  | nil =>
    obtain ⟨rfl, rfl⟩ := tracks.finish (Json.Reader.accepts_nil.1 accepts)
    rfl
  | cons c more ih =>
    obtain ⟨next, stepped, accepts⟩ := Json.Reader.accepts_cons.1 accepts
    obtain ⟨tracks, seen⟩ := tracks.step stepped accepts
    have inside : argumentSearch.ends quote depth c = false := by
      refine Bool.eq_false_iff.2 fun ends => ?_
      simp only [argumentSearch, Bool.and_eq_true, Bool.or_eq_true, beq_iff_eq] at ends
      obtain ⟨⟨sees, closing | comma⟩, rfl⟩ := ends
      · exact Nat.lt_irrefl 0 ((seen sees).close closing).1
      · exact Nat.lt_irrefl 0 ((seen sees).comma comma)
    rw [after_cons inside]
    exact ih tracks accepts

theorem after_read (read : Json.read text = .ok value) :
    argumentSearch.after? .outside 0 text = some (.outside, 0) :=
  after_accepted (outside_tracks rfl) (Json.read_ok.1 read)

theorem closeCall_on (stands : argumentSearch.after? .outside 0 text = some (.outside, 0))
    (rest : List Char) : closeCall? (text ++ ')' :: rest) = some (text, rest) := by
  rw [closeCall?, splitClose_on stands]
  change some (text ++ [], rest) = _
  rw [List.append_nil]

theorem object_visible {entries : List (String × Json)}
    (read : Json.read text = .ok (.object entries)) : isBlank text = false := by
  obtain ⟨gap, c, rest, next, rfl, _, _, begun⟩ := Json.accepts_begin (Json.read_ok.1 read)
  rcases begun with plain | ⟨list, _⟩ | ⟨_, rfl, _⟩
  · cases plain
  · cases list
  · have visible : Text.isWhitespace '\x7b' = false := by decide
    simp [isBlank, visible]

theorem arguments_object {entries : List (String × Json)}
    (read : Json.read text = .ok (.object entries)) : arguments text = [text] := by
  simp [arguments, pieces_whole (after_read read), object_visible read]

end Accepted

end Inquiry.Bracket
