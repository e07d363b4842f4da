import Inquiry.Proofs.Query.Search
import Inquiry.Proofs.Text.Offset
import Inquiry.Proofs.Turns
import Mathlib.Data.List.TakeWhile

/-!
The brackets and commas of a text by their offsets. Every offset that is found is that of a character
of one byte, so what is cut out from one to another is a piece of the text.
-/
namespace Inquiry.Bracket

def seen (quote : Quote) (offset : Nat) : List Char → List (Nat × Char)
  | [] => []
  | c :: rest =>
    let others := seen (quote.next c) (offset + c.utf8Size) rest
    if quote.sees c then (offset, c) :: others else others

def closeIn (depth : Nat) : List (Nat × Char) → Option Nat
  | [] => none
  | (offset, c) :: rest =>
    if opens c then closeIn (depth + 1) rest
    else if closes c then
      if depth - 1 = 0 then some offset else closeIn (depth - 1) rest
    else closeIn depth rest

def closeOffset? (text : List Char) : Option Nat := closeIn 1 (seen .outside 0 text)

/-- The offset of the bracket that ends a group. No bracket may close where none is open. -/
def groupIn (depth : Nat) : List (Nat × Char) → Option (Option Nat)
  | [] => some none
  | (offset, c) :: rest =>
    if isOpening c then groupIn (depth + 1) rest
    else if isClosing c then do
      let outer ← before? depth
      if outer = 0 then return some offset
      groupIn outer rest
    else groupIn depth rest

def groupOffsets? (bracket : Char) (text : List Char) :
    Option (Except Query.Fault (Option (Nat × Nat))) :=
  match (seen .outside 0 text).dropWhile fun mark => mark.2 != bracket with
  | [] => some (.ok none)
  | (first, c) :: rest => do
    match ← groupIn 0 ((first, c) :: rest) with
    | some last => return .ok (some (first, last))
    | none => return .error (.unbalanced bracket)

def groupSlice? (bracket : Char) (text : List Char) :
    Option (Except Query.Fault (Option (List Char))) := do
  match ← groupOffsets? bracket text with
  | .ok (some (first, last)) => return .ok (some (← Text.slice? first (last + 1) text))
  | .ok none => return .ok none
  | .error fault => return .error fault

def argumentsIn (depth start stop : Nat) : List (Nat × Char) → List (Nat × Nat)
  | [] => [(start, stop)]
  | (offset, c) :: rest =>
    if opens c then argumentsIn (depth + 1) start stop rest
    else if closes c then argumentsIn (depth - 1) start stop rest
    else if c = ',' ∧ depth = 0 then (start, offset) :: argumentsIn depth (offset + 1) stop rest
    else argumentsIn depth start stop rest

def argumentOffsets (text : List Char) : List (Nat × Nat) :=
  argumentsIn 0 0 (Text.size text) (seen .outside 0 text)

def argumentSlices? (text : List Char) : Option (List (List Char)) := do
  let parts ← (argumentOffsets text).mapM fun (first, last) => Text.slice? first last text
  return parts.filter fun part => !isBlank part

section Seen

variable {quote : Quote} {depth offset start : Nat} {text front part back rest : List Char}
  {bracket c : Char}

theorem seen_here (sees : quote.sees c = true) : seen quote offset (c :: rest) =
    (offset, c) :: seen (quote.next c) (offset + c.utf8Size) rest := by
  rw [seen, if_pos sees]

theorem seen_hidden (hidden : ¬ quote.sees c = true) : seen quote offset (c :: rest) =
    seen (quote.next c) (offset + c.utf8Size) rest := by
  rw [seen, if_neg hidden]

theorem seen_append (front back : List Char) : seen quote offset (front ++ back) =
    seen quote offset front ++ seen (front.foldl Quote.next quote) (offset + Text.size front) back := by
  induction front generalizing quote offset with
  | nil => rfl
  | cons c front ih =>
    rw [List.cons_append, List.foldl_cons, Text.size_cons, ← Nat.add_assoc]
    by_cases sees : quote.sees c = true
    · rw [seen_here sees, seen_here sees, ih, List.cons_append]
    · rw [seen_hidden sees, seen_hidden sees, ih]

theorem bracket_size (bracket : opens c = true ∨ closes c = true) : c.utf8Size = 1 := by
  simp only [opens, closes, Bool.or_eq_true, beq_iff_eq] at bracket
  rcases bracket with ((rfl | rfl) | rfl) | ((rfl | rfl) | rfl) <;> rfl

theorem opens_apart (opening : opens c = true) : closes c = false := by
  simp only [opens, Bool.or_eq_true, beq_iff_eq] at opening
  rcases opening with (rfl | rfl) | rfl <;> rfl

theorem opening_apart (opening : isOpening c = true) : isClosing c = false := by
  simp only [isOpening, Bool.or_eq_true, beq_iff_eq] at opening
  rcases opening with rfl | rfl <;> rfl

theorem closing_closes (closing : isClosing c = true) : closes c = true := by
  simp only [isClosing, Bool.or_eq_true, beq_iff_eq] at closing
  rcases closing with rfl | rfl <;> rfl

theorem opening_opens (opening : isOpening c = true) : opens c = true := by
  simp only [isOpening, Bool.or_eq_true, beq_iff_eq] at opening
  rcases opening with rfl | rfl <;> rfl

end Seen

section Close

variable {quote : Quote} {depth offset : Nat} {text inside after rest : List Char} {c : Char}

theorem splitClose_inv (found : splitClose quote depth text = some (inside, after)) :
    ∃ c, closes c = true ∧ text = inside ++ c :: after := by
  induction text generalizing quote depth inside with
  | nil => cases found
  | cons c text ih =>
    rw [splitClose] at found
    split at found
    next closing =>
      cases found
      simp only [Bool.and_eq_true] at closing
      exact ⟨c, closing.1.2, rfl⟩
    next =>
      obtain ⟨⟨more, back⟩, found, same⟩ := Option.map_eq_some_iff.1 found
      cases same
      obtain ⟨closer, closes, rfl⟩ := ih found
      exact ⟨closer, closes, rfl⟩

/-- One bracket more is open for the search by offsets than for the one that splits the text. -/
theorem closeIn_seen : closeIn (depth + 1) (seen quote offset text) =
    (splitClose quote depth text).map fun parts => offset + Text.size parts.1 := by
  induction text generalizing quote offset depth with
  | nil => rfl
  | cons c rest ih =>
    have later (inner : Nat) :
        closeIn (inner + 1) (seen (quote.next c) (offset + c.utf8Size) rest) =
          ((splitClose (quote.next c) inner rest).map (Prod.map (c :: ·) id)).map fun parts =>
            offset + Text.size parts.1 := by
      rw [ih]
      cases splitClose (quote.next c) inner rest <;> simp [Nat.add_assoc]
    rw [splitClose]
    by_cases sees : quote.sees c = true
    · rw [seen_here sees, closeIn, depthAfter, sees]
      by_cases opening : opens c = true
      · simp only [opening, opens_apart opening, Bool.true_and, Bool.false_and, Bool.false_eq_true,
          if_true, if_false]
        exact later (depth + 1)
      by_cases closing : closes c = true
      · cases depth with
        | zero => simp [opening, closing]
        | succ depth =>
          simp only [opening, closing, Bool.true_and, Bool.false_eq_true, if_true, if_false,
            Nat.add_sub_cancel, Nat.succ_ne_zero, beq_iff_eq]
          exact later depth
      · simp only [opening, closing, Bool.true_and, Bool.false_and, Bool.false_eq_true, if_false]
        exact later depth
    · rw [seen_hidden sees, depthAfter, Bool.eq_false_iff.2 sees]
      exact later depth

theorem closeOffset_eq (text : List Char) :
    closeOffset? text = (closeCall? text).map fun parts => Text.size parts.1 := by
  rw [closeOffset?, closeCall?, closeIn_seen]
  simp only [Nat.zero_add]

theorem closeOffset_stands (found : closeOffset? text = some offset) :
    ∃ closer, closes closer = true ∧ Text.StandsAt text offset closer := by
  rw [closeOffset_eq] at found
  obtain ⟨⟨inside, after⟩, closed, rfl⟩ := Option.map_eq_some_iff.1 found
  obtain ⟨closer, closing, rfl⟩ := splitClose_inv closed
  exact ⟨closer, closing, bracket_size (.inr closing), inside, after, rfl, rfl⟩

end Close

section Groups

variable {quote : Quote} {depth offset : Nat} {text rest tail : List Char} {bracket c : Char}

theorem groupIn_seen : groupIn (depth + 1) (seen quote offset text) =
    some ((groupTail? quote depth text).map fun tail => offset + Text.size tail - 1) := by
  induction text generalizing quote offset depth with
  | nil => rfl
  | cons c rest ih =>
    have later (inner : Nat) (goesOn : groupSearch.ends quote depth c = false)
        (same : groupDepth quote depth c = inner) :
        groupIn (inner + 1) (seen (quote.next c) (offset + c.utf8Size) rest) =
          some ((groupTail? quote depth (c :: rest)).map fun tail => offset + Text.size tail - 1) := by
      rw [groupTail_cons goesOn, same, ih, Option.map_map]
      refine congrArg some (congrFun (congrArg _ (funext fun parts => ?_)) _)
      simp [Nat.add_assoc]
    by_cases sees : quote.sees c = true
    · rw [seen_here sees, groupIn]
      by_cases opening : isOpening c = true
      · rw [if_pos opening]
        exact later (depth + 1) (by simp [groupSearch, opening_apart opening])
          (by simp [groupDepth, sees, opening])
      rw [if_neg opening]
      by_cases closing : isClosing c = true
      · rw [if_pos closing, before?, Option.bind_eq_bind, Option.bind_some]
        cases depth with
        | zero =>
          rw [if_pos rfl, groupTail_end (by simp [groupSearch, sees, closing])]
          simp [bracket_size (.inr (closing_closes closing))]
        | succ depth =>
          rw [if_neg (Nat.succ_ne_zero _)]
          exact later depth (by simp [groupSearch]) (by simp [groupDepth, sees, opening, closing])
      · rw [if_neg closing]
        exact later depth (by simp [groupSearch, closing]) (by simp [groupDepth, opening, closing])
    · rw [seen_hidden sees]
      exact later depth (by simp [groupSearch, sees]) (by simp [groupDepth, sees])

theorem fromBracket_none (unopened : fromBracket? bracket quote text = none) :
    ∀ mark ∈ seen quote offset text, (mark.2 != bracket) = true := by
  induction text generalizing quote offset with
  | nil => simp [seen]
  | cons c rest ih =>
    rw [fromBracket?] at unopened
    split at unopened
    next => cases unopened
    next other =>
      by_cases sees : quote.sees c = true
      · rw [seen_here sees]
        have apart : (c != bracket) = true := by simpa [sees] using other
        intro mark member
        rcases List.mem_cons.1 member with rfl | member
        · exact apart
        · exact ih unopened mark member
      · rw [seen_hidden sees]
        exact ih unopened

/-- What is seen from the first opening bracket on. -/
theorem seen_from (opening : isOpening bracket = true)
    (found : fromBracket? bracket .outside text = some rest) : ∃ front, text = front ++ bracket :: rest ∧
      (seen .outside 0 text).dropWhile (fun mark => mark.2 != bracket) =
        (Text.size front, bracket) :: seen .outside (Text.size front + 1) rest := by
  obtain ⟨front, rfl, unopened, outside⟩ := fromBracket_inv found
  have sees : Quote.outside.sees bracket = true := by
    simp only [isOpening, Bool.or_eq_true, beq_iff_eq] at opening
    rcases opening with rfl | rfl <;> rfl
  refine ⟨front, rfl, ?_⟩
  rw [seen_append, outside, List.dropWhile_append_of_pos (fromBracket_none unopened), seen_here sees,
    sees_next sees, bracket_size (.inl (opening_opens opening)), Nat.zero_add,
    List.dropWhile_cons_of_neg (by simp)]

/-- Where the first group stands: between brackets of one byte, each at its offset. -/
theorem groupOffsets_cases (opening : isOpening bracket = true) (text : List Char) :
    groupOffsets? bracket text = some (.ok none) ∧ group? bracket text = .ok none ∨
    groupOffsets? bracket text = some (.error (.unbalanced bracket)) ∧
      group? bracket text = .error (.unbalanced bracket) ∨
    ∃ front inside closer back, isClosing closer = true ∧
      text = front ++ ((bracket :: inside ++ [closer]) ++ back) ∧
      groupOffsets? bracket text = some (.ok (some (Text.size front,
        Text.size front + Text.size (bracket :: inside)))) ∧
      group? bracket text = .ok (some (bracket :: inside ++ [closer])) := by
  cases found : fromBracket? bracket .outside text with
  | none =>
    have unmarked : (seen .outside 0 text).dropWhile (fun mark => mark.2 != bracket) = [] :=
      List.dropWhile_eq_nil_iff.2 (fromBracket_none found)
    exact .inl ⟨by rw [groupOffsets?, unmarked], by rw [group?, found]⟩
  | some rest =>
    obtain ⟨front, shape, marks⟩ := seen_from opening found
    have ends : groupIn 0 ((Text.size front, bracket) :: seen .outside (Text.size front + 1) rest) =
        some ((groupTail? .outside 0 rest).map fun tail => Text.size front + 1 + Text.size tail - 1) := by
      rw [groupIn, if_pos opening, groupIn_seen]
    refine .inr ?_
    cases closed : groupTail? .outside 0 rest with
    | none =>
      rw [closed] at ends
      refine .inl ⟨?_, ?_⟩
      · rw [groupOffsets?, marks]
        simp only [ends]
        rfl
      · rw [group?, found]
        simp only [closed]
    | some tail =>
      obtain ⟨inside, closer, back, after, inner, rfl, rfl, -, stops⟩ := groupTail_found.1 closed
      simp only [groupSearch, Bool.and_eq_true] at stops
      have closing := stops.1.2
      have last : Text.size front + 1 + Text.size (inside ++ [closer]) - 1 =
          Text.size front + Text.size (bracket :: inside) := by
        rw [Text.size_append, Text.size_cons, Text.size_cons, Text.size_nil,
          bracket_size (.inr (closing_closes closing)), bracket_size (.inl (opening_opens opening))]
        omega
      rw [closed, Option.map_some, last] at ends
      refine .inr ⟨front, inside, closer, back, closing, by simp [shape], ?_, ?_⟩
      · rw [groupOffsets?, marks]
        simp only [ends]
        rfl
      · rw [group?, found]
        simp only [closed]
        rfl

theorem groupSlice_eq (opening : isOpening bracket = true) (text : List Char) :
    groupSlice? bracket text = some (group? bracket text) := by
  rcases groupOffsets_cases opening text with ⟨found, same⟩ | ⟨found, same⟩ |
    ⟨front, inside, closer, back, closing, rfl, found, same⟩
  · rw [groupSlice?, found, same]
    rfl
  · rw [groupSlice?, found, same]
    rfl
  · have cut := Text.slice_append front (bracket :: inside ++ [closer]) back
    rw [Text.size_append, Text.size_cons closer, bracket_size (.inr (closing_closes closing)),
      Text.size_nil, ← Nat.add_assoc] at cut
    rw [groupSlice?, found, same, Option.bind_eq_bind, Option.bind_some]
    simp only [cut]
    rfl

theorem groupOffsets_stand {first last : Nat} (opening : isOpening bracket = true)
    (found : groupOffsets? bracket text = some (.ok (some (first, last)))) :
    first < last ∧ Text.StandsAt text first bracket ∧
      ∃ closer, isClosing closer = true ∧ Text.StandsAt text last closer := by
  have opener := bracket_size (.inl (opening_opens opening))
  rcases groupOffsets_cases opening text with ⟨other, -⟩ | ⟨other, -⟩ |
    ⟨front, inside, closer, back, closing, rfl, same, -⟩
  · rw [other] at found
    cases found
  · rw [other] at found
    cases found
  · rw [same] at found
    cases found
    refine ⟨?_, ⟨opener, front, inside ++ [closer] ++ back, by simp, rfl⟩, closer, closing,
      bracket_size (.inr (closing_closes closing)), front ++ bracket :: inside, back, by simp, by simp⟩
    rw [Text.size_cons, opener]
    omega

end Groups

section Arguments

variable {quote : Quote} {depth offset start stop : Nat} {text front part rest : List Char} {c : Char}

theorem argumentsIn_pass {marks : List (Nat × Char)} (sees : quote.sees c = true)
    (goesOn : ¬ (c = ',' ∧ depth = 0)) : argumentsIn depth start stop ((offset, c) :: marks) =
      argumentsIn (depthAfter quote depth c) start stop marks := by
  rw [argumentsIn, depthAfter, sees]
  by_cases opening : opens c = true
  · simp [opening]
  · by_cases closing : closes c = true <;> simp [opening, closing, goesOn]

theorem argumentsIn_comma {marks : List (Nat × Char)} :
    argumentsIn 0 start stop ((offset, ',') :: marks) =
      (start, offset) :: argumentsIn 0 (offset + 1) stop marks := rfl

/-- What is cut out of a text, where an argument has begun behind `front` and goes on from `part`. -/
theorem argumentsIn_seen {whole : List Char} (shape : whole = front ++ (part ++ text)) :
    (argumentsIn depth (Text.size front) (Text.size whole)
        (seen quote (Text.size front + Text.size part) text)).mapM
      (fun (first, last) => Text.slice? first last whole) =
    some ((pieces quote depth text).modifyHead (part ++ ·)) := by
  induction text generalizing quote depth front part with
  | nil =>
    have cut := Text.slice_append front part []
    rw [← shape] at cut
    have size : Text.size whole = Text.size front + Text.size part := by simp [shape]
    simp [seen, argumentsIn, pieces, size, cut]
  | cons c rest ih =>
    by_cases ends : (quote.sees c && c == ',' && depth == 0) = true
    · have comma := ends
      simp only [Bool.and_eq_true, beq_iff_eq] at comma
      obtain ⟨⟨sees, rfl⟩, rfl⟩ := comma
      have cut := Text.slice_append front part (',' :: rest)
      have others := @ih (quote.next ',') 0 (front ++ part ++ [',']) [] (by simp [shape])
      have behind : Text.size (front ++ part ++ [',']) = Text.size front + Text.size part + 1 := by
        rw [Text.size_append, Text.size_append]
        rfl
      rw [← shape] at cut
      rw [behind, Text.size_nil, Nat.add_zero, sees_next sees] at others
      rw [seen_here sees, sees_next sees, argumentsIn_comma, List.mapM_cons, pieces, if_pos ends]
      rw [show ','.utf8Size = 1 from rfl]
      simp only [cut, others, Option.bind_eq_bind, Option.bind_some]
      cases pieces .outside 0 rest <;> simp
    · have others := @ih (quote.next c) (depthAfter quote depth c) front (part ++ [c]) (by simp [shape])
      rw [Text.size_append, Text.size_cons, Text.size_nil, Nat.add_zero, ← Nat.add_assoc] at others
      have joined : ((part ++ [c]) ++ ·) = (part ++ ·) ∘ (c :: ·) := by
        funext piece
        simp
      rw [pieces_pass ends, List.modifyHead_modifyHead, ← joined, ← others]
      by_cases sees : quote.sees c = true
      · rw [seen_here sees, argumentsIn_pass sees (by simpa [sees] using ends)]
      · rw [seen_hidden sees, depthAfter, Bool.eq_false_iff.2 sees]
        rfl

theorem argumentSlices_eq (text : List Char) : argumentSlices? text = some (arguments text) := by
  have parts := @argumentsIn_seen .outside 0 text [] [] text rfl
  rw [Text.size_nil] at parts
  rw [argumentSlices?, argumentOffsets, parts, arguments]
  cases pieces .outside 0 text <;> rfl

theorem mapM_each {α β : Type} {f : α → Option β} {items : List α} {results : List β}
    (all : items.mapM f = some results) : ∀ item ∈ items, ∃ result, f item = some result := by
  induction items generalizing results with
  | nil => simp
  | cons item items ih =>
    rw [List.mapM_cons] at all
    obtain ⟨result, first, all⟩ := Option.bind_eq_some_iff.1 all
    obtain ⟨others, rest, -⟩ := Option.bind_eq_some_iff.1 all
    intro other member
    rcases List.mem_cons.1 member with rfl | member
    · exact ⟨result, first⟩
    · exact ih rest other member

/-- An argument begins before it ends, and both between two characters or at an end of the text. -/
theorem argumentOffsets_inside {offsets : Nat × Nat} (member : offsets ∈ argumentOffsets text) :
    offsets.1 ≤ offsets.2 ∧ Text.IsOffset text offsets.1 ∧ Text.IsOffset text offsets.2 := by
  obtain ⟨parts, all, -⟩ := Option.bind_eq_some_iff.1 (argumentSlices_eq text)
  obtain ⟨part, cut⟩ := mapM_each all offsets member
  exact Text.slice_inv cut

end Arguments

end Inquiry.Bracket
