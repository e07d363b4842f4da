import Inquiry.Proofs.Query.Pass
import Inquiry.Proofs.Turns
import Mathlib.Data.List.Induction

/-!
The places of a text at which the parts of relaxed notation begin and end, found by loops that count
and skip. A backslash takes them two places on, and so behind the end of a text that it ends.
-/
namespace Inquiry.Relaxed

def range? (text : List Char) (first stop : Nat) : Option (List Char) :=
  if first ≤ stop ∧ stop ≤ text.length then some ((text.drop first).take (stop - first)) else none

def stringTurn (text : List Char) (mark : Char) (place : Nat) : Option (Progress Nat Nat) :=
  if place < text.length then do
    let c ← text[place]?
    if c = '\\' then return .on (place + 2)
    if c = mark then return .done (place + 1)
    return .on (place + 1)
  else some (.done text.length)

def stringEnd? (text : List Char) (mark : Char) (start : Nat) : Option Nat :=
  turns (stringTurn text mark) (text.length + 1) (start + 1)

/-- A place and what is gathered on the way to it, nearest first. -/
abbrev Gathering := Nat × List Char

def gatherTurn (keep : Char → Bool) (text : List Char) :
    Gathering → Option (Progress Gathering Gathering)
  | (place, seen) =>
    if place < text.length then do
      let c ← text[place]?
      return if keep c then .on (place + 1, c :: seen) else .done (place, seen)
    else some (.done (place, seen))

def gather? (keep : Char → Bool) (text : List Char) (start : Nat) : Option Gathering :=
  turns (gatherTurn keep text) (text.length + 1) (start, [])

def patternTurn (text : List Char) : Gathering → Option (Progress Gathering Gathering)
  | (place, seen) =>
    if place < text.length then do
      let c ← text[place]?
      if c = '/' then return .done (place, seen)
      if c = '\\' ∧ place + 1 < text.length then
        let d ← text[place + 1]?
        return .on (place + 2, d :: c :: seen)
      return .on (place + 1, c :: seen)
    else some (.done (place, seen))

def expression? (text : List Char) (start : Nat) : Option (List Char × Nat) := do
  let (close, pattern) ← turns (patternTurn text) (text.length + 1) (start + 1, [])
  let (next, flags) ← gather? Char.isAlpha text (close + 1)
  return (patternObject pattern.reverse flags.reverse, next)

/-- A string up to its mark, in which a backslash hides the character behind it. -/
inductive IsContent (mark : Char) : List Char → Prop
  | nil : IsContent mark []
  | plain {c : Char} {rest : List Char} (inside : c ≠ mark) (unescaped : c ≠ '\\')
      (more : IsContent mark rest) : IsContent mark (c :: rest)
  | escaped {c : Char} {rest : List Char} (more : IsContent mark rest) :
      IsContent mark ('\\' :: c :: rest)

section Texts

variable {text part rest : List Char} {place start stop : Nat} {c mark : Char}

theorem drop_cons (here : text.drop place = c :: rest) :
    place < text.length ∧ text[place]? = some c ∧ text.drop (place + 1) = rest := by
  have within : place < text.length := Nat.lt_of_not_le fun outside => by
    rw [List.drop_eq_nil_of_le outside] at here
    cases here
  rw [List.drop_eq_getElem_cons within, List.cons.injEq] at here
  exact ⟨within, by rw [List.getElem?_eq_getElem within, here.1], here.2⟩

/-- What a loop reads at a place of the text. -/
theorem reads_here {α : Type} (here : text.drop place = c :: rest) (read : Char → Option α)
    (end? : Option α) : (if place < text.length then text[place]? >>= read else end?) = read c := by
  obtain ⟨within, found, -⟩ := drop_cons here
  rw [if_pos within, found]
  rfl

theorem drop_append (here : text.drop place = part ++ rest) :
    text.drop (place + part.length) = rest := by
  rw [← List.drop_drop, here, List.drop_left]

theorem drop_length (here : text.drop place = part) (within : place ≤ text.length) :
    text.length = place + part.length := by
  rw [← here, List.length_drop]
  omega

theorem drop_end (here : text.drop place = []) : ¬ place < text.length :=
  Nat.not_lt.2 (List.drop_eq_nil_iff.1 here)

theorem drop_head (text : List Char) (place : Nat) : text[place]? = (text.drop place).head? := by
  rw [List.head?_drop]

theorem range_part (here : text.drop place = part ++ rest) (within : place ≤ text.length) :
    range? text place (place + part.length) = some part := by
  have whole := drop_length here within
  rw [List.length_append] at whole
  rw [range?, if_pos (by omega), Nat.add_sub_cancel_left, here, List.take_left]

/-- A string is closed, or the text ends in it, perhaps with a backslash that hides nothing. -/
theorem content_split (mark : Char) (text : List Char) : ∃ part, IsContent mark part ∧
    ((∃ rest, text = part ++ mark :: rest) ∨ text = part ∨ text = part ++ ['\\']) := by
  have plain {c : Char} {text : List Char} (inside : c ≠ mark) (unescaped : c ≠ '\\')
      (split : ∃ part, IsContent mark part ∧
        ((∃ rest, text = part ++ mark :: rest) ∨ text = part ∨ text = part ++ ['\\'])) :
      ∃ part, IsContent mark part ∧
        ((∃ rest, c :: text = part ++ mark :: rest) ∨ c :: text = part ∨
          c :: text = part ++ ['\\']) := by
    obtain ⟨part, content, split⟩ := split
    refine ⟨c :: part, .plain inside unescaped content, ?_⟩
    simpa using split
  induction text using List.twoStepInduction with
  | nil => exact ⟨[], .nil, .inr (.inl rfl)⟩
  | singleton c =>
    by_cases closing : c = mark
    · exact ⟨[], .nil, .inl ⟨[], by rw [closing]; rfl⟩⟩
    by_cases escape : c = '\\'
    · exact ⟨[], .nil, .inr (.inr (by rw [escape]; rfl))⟩
    · exact plain closing escape ⟨[], .nil, .inr (.inl rfl)⟩
  | cons_cons c d rest last more =>
    by_cases closing : c = mark
    · exact ⟨[], .nil, .inl ⟨d :: rest, by rw [closing]; rfl⟩⟩
    by_cases escape : c = '\\'
    · obtain ⟨part, content, split⟩ := last
      rw [escape]
      refine ⟨'\\' :: d :: part, .escaped content, ?_⟩
      simpa using split
    · exact plain closing escape (more d)

/-- Only behind a backslash a mark is part of the content. -/
theorem content_last (content : IsContent mark part) (last : part.getLast? = some mark) :
    ∃ front, IsContent mark front ∧ part = front ++ ['\\', mark] := by
  induction content with
  | nil => cases last
  | @plain c rest inside unescaped more ih =>
    cases rest with
    | nil => exact absurd (by simpa using last) inside
    | cons d rest =>
      rw [List.getLast?_cons_cons] at last
      obtain ⟨front, content, shape⟩ := ih last
      exact ⟨c :: front, .plain inside unescaped content, by rw [shape]; rfl⟩
  | @escaped c rest more ih =>
    cases rest with
    | nil =>
      have same : c = mark := by simpa using last
      exact ⟨[], .nil, by rw [same]; rfl⟩
    | cons d rest =>
      rw [List.getLast?_cons_cons, List.getLast?_cons_cons] at last
      obtain ⟨front, content, shape⟩ := ih last
      exact ⟨'\\' :: c :: front, .escaped content, by rw [shape]; rfl⟩

end Texts

section Ends

variable {text part rest : List Char} {place start stop : Nat} {c mark : Char}

theorem string_content (content : IsContent mark part) (here : text.drop place = part ++ rest)
    (ends : EndsIn (stringTurn text mark) (text.length - ·) (place + part.length) stop) :
    EndsIn (stringTurn text mark) (text.length - ·) place stop := by
  induction content generalizing place with
  | nil => exact ends
  | plain inside unescaped more ih =>
    have turn : stringTurn text mark place = some (.on (place + 1)) := by
      rw [stringTurn, reads_here here, if_neg unescaped, if_neg inside]
      rfl
    obtain ⟨within, -, next⟩ := drop_cons here
    rw [List.length_cons, Nat.add_comm _ 1, ← Nat.add_assoc] at ends
    exact .on turn (by omega) (ih next ends)
  | escaped more ih =>
    have turn : stringTurn text mark place = some (.on (place + 2)) := by
      rw [stringTurn, reads_here here, if_pos rfl]
      rfl
    obtain ⟨within, -, next⟩ := drop_cons here
    rw [List.length_cons, List.length_cons, Nat.add_assoc, Nat.add_comm _ 2, ← Nat.add_assoc] at ends
    exact .on turn (by omega) (ih (drop_cons next).2.2 ends)

theorem stringEnd_ends (ends : EndsIn (stringTurn text mark) (text.length - ·) (start + 1) stop) :
    stringEnd? text mark start = some stop :=
  ends.turns (by omega)

theorem stringEnd_closed (other : mark ≠ '\\') (content : IsContent mark part)
    (here : text.drop (start + 1) = part ++ mark :: rest) :
    stringEnd? text mark start = some (start + 1 + part.length + 1) := by
  refine stringEnd_ends (string_content content here (.done ?_))
  rw [stringTurn, reads_here (drop_append here), if_neg other, if_pos rfl]
  rfl

theorem stringEnd_open (content : IsContent mark part)
    (here : text.drop (start + 1) = part ∨ text.drop (start + 1) = part ++ ['\\']) :
    stringEnd? text mark start = some text.length := by
  have outside {place : Nat} (past : ¬ place < text.length) :
      EndsIn (stringTurn text mark) (text.length - ·) place text.length :=
    .done (by rw [stringTurn, if_neg past])
  rcases here with here | here
  · rw [← part.append_nil] at here
    exact stringEnd_ends (string_content content here (outside (drop_end (drop_append here))))
  · obtain ⟨within, -, next⟩ := drop_cons (drop_append here)
    have past := drop_end next
    have turn : stringTurn text mark (start + 1 + part.length) =
        some (.on (start + 1 + part.length + 2)) := by
      rw [stringTurn, reads_here (drop_append here), if_pos rfl]
      rfl
    exact stringEnd_ends (string_content content here (.on turn (by omega) (outside (by omega))))

/-- A string ends behind its opening mark and in the text. -/
theorem stringEnd_inside (other : mark ≠ '\\') (within : start < text.length) :
    ∃ stop, stringEnd? text mark start = some stop ∧ start < stop ∧ stop ≤ text.length := by
  obtain ⟨part, content, ⟨rest, here⟩ | here⟩ := content_split mark (text.drop (start + 1))
  · have whole := drop_length here within
    rw [List.length_append, List.length_cons] at whole
    exact ⟨_, stringEnd_closed other content here, by omega, by omega⟩
  · exact ⟨_, stringEnd_open content here, within, Nat.le_refl _⟩

def gatheredFrom (keep : Char → Bool) (text : List Char) : Gathering → Gathering
  | (place, seen) => (place + ((text.drop place).takeWhile keep).length,
      ((text.drop place).takeWhile keep).reverse ++ seen)

theorem gather_turn (keep : Char → Bool) (text : List Char) (state : Gathering) :
    Sound (gatherTurn keep text) (fun state => text.length - state.1)
      (fun state result => result = gatheredFrom keep text state) state := by
  obtain ⟨place, seen⟩ := state
  cases here : text.drop place with
  | nil => exact .done (by rw [gatherTurn, if_neg (drop_end here)]) (by simp [gatheredFrom, here])
  | cons c rest =>
    obtain ⟨within, -, next⟩ := drop_cons here
    by_cases kept : keep c = true
    · have turn : gatherTurn keep text (place, seen) = some (.on (place + 1, c :: seen)) := by
        rw [gatherTurn, reads_here here, if_pos kept]
        rfl
      refine .on turn (by simp only; omega) fun result same => ?_
      simp [same, gatheredFrom, here, next, kept, Nat.add_assoc, Nat.add_comm 1]
    · have turn : gatherTurn keep text (place, seen) = some (.done (place, seen)) := by
        rw [gatherTurn, reads_here here, if_neg kept]
        rfl
      exact .done turn (by simp [gatheredFrom, here, kept])

theorem gather_end (keep : Char → Bool) (text : List Char) (start : Nat) :
    gather? keep text start = some (start + ((text.drop start).takeWhile keep).length,
      ((text.drop start).takeWhile keep).reverse) := by
  have enough : text.length - start < text.length + 1 := by omega
  obtain ⟨result, ends, rfl⟩ := turns_sound (gather_turn keep text) (start, []) enough
  rw [gather?, ends, gatheredFrom, List.append_nil]

/-- What is gathered are the characters up to the first that is not kept. -/
theorem gather_parts (keep : Char → Bool) (text : List Char) (start : Nat) : ∃ part rest,
    gather? keep text start = some (start + part.length, part.reverse) ∧
      text.drop start = part ++ rest ∧ (∀ c ∈ part, keep c = true) ∧
      ∀ c ∈ rest.head?, keep c = false := by
  refine ⟨_, (text.drop start).dropWhile keep, gather_end keep text start,
    List.takeWhile_append_dropWhile.symm, List.all_eq_true.1 List.all_takeWhile, fun c first => ?_⟩
  have stops := List.head?_dropWhile_not keep (text.drop start)
  rw [Option.mem_def.1 first] at stops
  exact stops

/-- A loop that takes a character, or a backslash and the character that it hides, gathers from a
content what the machine gathers from it. -/
theorem content_run {ρ ι : Type} {turn : Gathering → Option (Progress Gathering ρ)}
    (state : ι → List Char → Pass) {seen : List Char}
    (plain : ∀ {place : Nat} {c : Char} {rest : List Char} (seen : List Char),
      text.drop place = c :: rest → place < stop → c ≠ mark → c ≠ '\\' →
      ∃ next, turn (place, seen) = some (.on (place + 1, next)) ∧
        ∀ i, step (state i seen) c = state i next)
    (escaped : ∀ {place : Nat} {c : Char} {rest : List Char} (seen : List Char),
      text.drop place = '\\' :: c :: rest → place < stop →
      ∃ next, turn (place, seen) = some (.on (place + 2, next)) ∧
        ∀ i, ['\\', c].foldl step (state i seen) = state i next)
    (content : IsContent mark part) (here : text.drop place = part ++ rest)
    (within : place + part.length ≤ stop) :
    ∃ next, (∀ i, part.foldl step (state i seen) = state i next) ∧
      ∀ result, EndsIn turn (fun state => text.length - state.1) (place + part.length, next) result →
        EndsIn turn (fun state => text.length - state.1) (place, seen) result := by
  induction content generalizing place seen with
  | nil => exact ⟨seen, fun _ => rfl, fun _ ends => ends⟩
  | @plain c more inside unescaped _ ih =>
    rw [List.length_cons, Nat.add_comm _ 1, ← Nat.add_assoc] at within ⊢
    obtain ⟨inText, -, behind⟩ := drop_cons here
    obtain ⟨taken, turned, stepped⟩ := plain seen here (by omega) inside unescaped
    obtain ⟨next, run, ends⟩ := @ih _ taken behind within
    refine ⟨next, fun i => ?_, fun result last => .on turned (by simp only; omega) (ends result last)⟩
    rw [List.foldl_cons, stepped, run]
  | @escaped c more _ ih =>
    rw [List.length_cons, List.length_cons, Nat.add_assoc, Nat.add_comm _ 2, ← Nat.add_assoc]
      at within ⊢
    obtain ⟨inText, -, behind⟩ := drop_cons here
    obtain ⟨taken, turned, stepped⟩ := escaped seen here (by omega)
    obtain ⟨next, run, ends⟩ := @ih _ taken (drop_cons behind).2.2 within
    refine ⟨next, fun i => ?_, fun result last => .on turned (by simp only; omega) (ends result last)⟩
    rw [show '\\' :: c :: more = ['\\', c] ++ more from rfl, List.foldl_append, stepped, run]

theorem pattern_content (content : IsContent '/' part) (here : text.drop start = part ++ rest) :
    ∃ seen, (∀ before : Option Char × List Char,
        part.foldl step ⟨.pattern [], before.1, before.2⟩ = ⟨.pattern seen, before.1, before.2⟩) ∧
      ∀ result,
        EndsIn (patternTurn text) (fun state => text.length - state.1) (start + part.length, seen) result →
        EndsIn (patternTurn text) (fun state => text.length - state.1) (start, []) result := by
  refine content_run
    (fun (before : Option Char × List Char) seen => ⟨.pattern seen, before.1, before.2⟩)
    (fun {place c rest} seen here _ inside unescaped => ⟨c :: seen, ?_, fun before => ?_⟩)
    (fun {place c rest} seen here _ => ⟨c :: '\\' :: seen, ?_, fun before => rfl⟩) content here
    (Nat.le_refl _)
  · rw [patternTurn, reads_here here, if_neg inside, if_neg fun hidden => unescaped hidden.1]
    rfl
  · simp [step, inside, unescaped]
  · obtain ⟨within, found, -⟩ := drop_cons (drop_cons here).2.2
    rw [patternTurn, reads_here here, if_neg (by decide), if_pos ⟨rfl, within⟩, found]
    rfl

/-- A pattern ends at its slash, or at the end of the text. What follows are the flags. -/
theorem pattern_end (text : List Char) (start : Nat) : ∃ close seen,
    turns (patternTurn text) (text.length + 1) (start, []) = some (close, seen) ∧ start ≤ close ∧
      ∀ last out, ((text.drop start).foldl step ⟨.pattern [], last, out⟩).finish =
        ((text.drop (close + 1)).foldl step ⟨.flags seen [], last, out⟩).finish := by
  have found {close : Nat} {seen : List Char}
      (ends : EndsIn (patternTurn text) (fun state => text.length - state.1) (start, []) (close, seen)) :
      turns (patternTurn text) (text.length + 1) (start, []) = some (close, seen) :=
    ends.turns (by simp only; omega)
  have atEnd {place : Nat} {seen : List Char} (past : ¬ place < text.length) :
      EndsIn (patternTurn text) (fun state => text.length - state.1) (place, seen) (place, seen) :=
    .done (by rw [patternTurn, if_neg past])
  have behind {place : Nat} (past : ¬ place < text.length) : text.drop (place + 1) = [] :=
    List.drop_eq_nil_of_le (by omega)
  obtain ⟨part, content, ⟨rest, here⟩ | here | here⟩ := content_split '/' (text.drop start)
  · obtain ⟨seen, run, ends⟩ := pattern_content content here
    refine ⟨start + part.length, seen, found (ends _ (.done ?_)), Nat.le_add_right _ _, fun last out => ?_⟩
    · rw [patternTurn, reads_here (drop_append here), if_pos rfl]
      rfl
    · rw [here, (drop_cons (drop_append here)).2.2, List.foldl_append, run (last, out), List.foldl_cons]
      rfl
  · rw [← part.append_nil] at here
    obtain ⟨seen, run, ends⟩ := pattern_content content here
    have past := drop_end (drop_append here)
    refine ⟨start + part.length, seen, found (ends _ (atEnd past)), Nat.le_add_right _ _, fun last out => ?_⟩
    rw [here, List.append_nil, run (last, out), behind past]
    rfl
  · obtain ⟨seen, run, ends⟩ := pattern_content content here
    obtain ⟨within, -, next⟩ := drop_cons (drop_append here)
    have past := drop_end next
    have turn : patternTurn text (start + part.length, seen) =
        some (.on (start + part.length + 1, '\\' :: seen)) := by
      rw [patternTurn, reads_here (drop_append here), if_neg (by decide), if_neg fun both => past both.2]
      rfl
    refine ⟨start + part.length + 1, '\\' :: seen, found (ends _ (.on turn ?_ (atEnd past))), by omega,
      fun last out => ?_⟩
    · simp only
      omega
    rw [here, List.foldl_append, run (last, out), behind past]
    rfl

/-- Flags end without a sign of their own, so the pass sees their end one character later. -/
theorem flags_over {pattern seen out : List Char} {last : Option Char}
    (stops : ∀ c ∈ rest.head?, c.isAlpha = false) :
    (rest.foldl step ⟨.flags pattern seen, last, out⟩).finish =
      (rest.foldl step ⟨.plain, some '\x7d', withPattern pattern seen out⟩).finish := by
  cases rest with
  | nil => rfl
  | cons c rest => simp [step, stops c rfl]

/-- Wherever a regular expression is looked for, its end lies behind that place. -/
theorem expression_end (text : List Char) (start : Nat) : ∃ object next,
    expression? text start = some (object, next) ∧ start < next ∧
      ∀ last out, ((text.drop (start + 1)).foldl step ⟨.pattern [], last, out⟩).finish =
        ((text.drop next).foldl step ⟨.plain, some '\x7d', object.reverse ++ out⟩).finish := by
  obtain ⟨close, pattern, found, onward, run⟩ := pattern_end text (start + 1)
  obtain ⟨flags, rest, gathered, parts, letters, stops⟩ := gather_parts Char.isAlpha text (close + 1)
  refine ⟨patternObject pattern.reverse flags, close + 1 + flags.length, ?_, by omega,
    fun last out => ?_⟩
  · simp [expression?, found, gathered]
  · rw [run, drop_append parts, parts, List.foldl_append, after_flags letters, List.append_nil,
      flags_over stops, withPattern, List.reverse_reverse]

end Ends
end Inquiry.Relaxed
