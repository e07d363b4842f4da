import Inquiry.Text.Cut

/-!
Where a part of a text ends, what a text begins with, the white space around it, its lines put
together again, and where a line stands in its text.
-/
namespace Inquiry.Text

theorem span_append {α : Type} (keep : α → Bool) (front back : List α)
    (kept : ∀ c ∈ front, keep c = true) (stops : ∀ c, back.head? = some c → keep c = false) :
    (front ++ back).takeWhile keep = front ∧ (front ++ back).dropWhile keep = back := by
  rw [List.takeWhile_append_of_pos kept, List.dropWhile_append_of_pos kept]
  cases back with
  | nil => simp
  | cons c rest => simp [stops c rfl]

/-- A character of two texts in a row stands in the first or in the second one. -/
theorem split_middle {c : Char} {front back left right : List Char}
    (same : front ++ c :: back = left ++ right) : (∃ more, left = front ++ c :: more) ∨
      ∃ more, front = left ++ more ∧ right = more ++ c :: back := by
  rcases List.append_eq_append_iff.1 same with ⟨more, leftShape, rightShape⟩ | ⟨more, frontShape, rightShape⟩
  · cases more with
    | nil => exact .inr ⟨[], by simpa using leftShape.symm, by simpa using rightShape.symm⟩
    | cons d more =>
      obtain ⟨rfl, _⟩ := List.cons.inj rightShape
      exact .inl ⟨more, leftShape⟩
  · exact .inr ⟨more, frontShape, rightShape⟩

theorem after_append (lead rest : List Char) : after? lead (lead ++ rest) = some rest := by
  induction lead with
  | nil => rfl
  | cons c lead ih => simpa [after?] using ih

theorem append_of_after {lead text rest : List Char} (found : after? lead text = some rest) :
    text = lead ++ rest := by
  induction lead generalizing text with
  | nil => exact Option.some.inj found
  | cons c lead ih =>
    cases text with
    | nil => cases found
    | cons d text =>
      rw [after?] at found
      split at found
      next same => rw [ih found, same, List.cons_append]
      next => cases found

theorem after_iff {lead text rest : List Char} : after? lead text = some rest ↔ text = lead ++ rest :=
  ⟨append_of_after, fun same => same ▸ after_append lead rest⟩

theorem splitAt_here {c : Char} {front rest : List Char} (absent : c ∉ front) :
    splitAt? [c] (front ++ c :: rest) = some (front, rest) := by
  induction front with
  | nil => simp [splitAt?, after?]
  | cons d front ih =>
    simp only [List.mem_cons, not_or] at absent
    simp [splitAt?, after?, absent.1, ih absent.2]

theorem splitAt_none {c : Char} {text : List Char} (absent : c ∉ text) : splitAt? [c] text = none := by
  induction text with
  | nil => rfl
  | cons d text ih =>
    simp only [List.mem_cons, not_or] at absent
    simp [splitAt?, after?, absent.1, ih absent.2]

def IsWhite (text : List Char) : Prop := ∀ c ∈ text, isWhitespace c = true

section White

variable {before text after : List Char} {c : Char}

theorem IsWhite.append (first : IsWhite before) (second : IsWhite after) : IsWhite (before ++ after) :=
  List.forall_mem_append.2 ⟨first, second⟩

theorem takeWhile_white (text : List Char) : IsWhite (text.takeWhile isWhitespace) :=
  List.all_eq_true.1 List.all_takeWhile

theorem trimStart_parts (text : List Char) : ∃ gap, IsWhite gap ∧ text = gap ++ trimStart text :=
  ⟨text.takeWhile isWhitespace, takeWhile_white text, List.takeWhile_append_dropWhile.symm⟩

theorem trimStart_white (white : IsWhite before) : trimStart (before ++ text) = trimStart text :=
  List.dropWhile_append_of_pos white

theorem trimStart_visible (visible : isWhitespace c = false) : trimStart (c :: text) = c :: text :=
  List.dropWhile_cons_of_neg (by simp [visible])

theorem trimStart_iff (visible : isWhitespace c = false) :
    trimStart text = c :: after ↔ ∃ gap, IsWhite gap ∧ text = gap ++ c :: after := by
  constructor
  · intro trimmed
    obtain ⟨gap, white, parts⟩ := trimStart_parts text
    exact ⟨gap, white, trimmed ▸ parts⟩
  · rintro ⟨gap, white, rfl⟩
    rw [trimStart_white white, trimStart_visible visible]

theorem trimEnd_append (before : List Char) (seen : ∃ c ∈ text, isWhitespace c = false) :
    trimEnd (before ++ text) = before ++ trimEnd text := by
  obtain ⟨c, member, visible⟩ := seen
  have kept : text.reverse.dropWhile isWhitespace ≠ [] := by
    intro empty
    have whole := @List.takeWhile_append_dropWhile _ isWhitespace text.reverse
    rw [empty, List.append_nil] at whole
    have white := takeWhile_white text.reverse c (by simpa [whole] using member)
    rw [visible] at white
    cases white
  rw [trimEnd, List.reverse_append, List.dropWhile_append, if_neg (by simpa using kept),
    List.reverse_append, List.reverse_reverse]
  rfl

theorem trimEnd_white (white : IsWhite after) : trimEnd (text ++ after) = trimEnd text := by
  have reversed : ∀ c ∈ after.reverse, isWhitespace c = true :=
    fun c member => white c (List.mem_reverse.1 member)
  rw [trimEnd, List.reverse_append, List.dropWhile_append_of_pos reversed]
  rfl

theorem trimEnd_subset (text : List Char) : trimEnd text ⊆ text := by
  intro c member
  exact List.mem_reverse.1 ((List.dropWhile_sublist _).subset (List.mem_reverse.1 member))

/-- What is trimmed off is white. -/
theorem trim_parts (text : List Char) :
    ∃ before after, text = before ++ trim text ++ after ∧ IsWhite before ∧ IsWhite after := by
  refine ⟨text.takeWhile isWhitespace, ((trimStart text).reverse.takeWhile isWhitespace).reverse, ?_,
    takeWhile_white text, fun c member => takeWhile_white _ c (List.mem_reverse.1 member)⟩
  have ended : trim text ++ ((trimStart text).reverse.takeWhile isWhitespace).reverse =
      trimStart text := by
    rw [trim, trimEnd, ← List.reverse_append, List.takeWhile_append_dropWhile, List.reverse_reverse]
  rw [List.append_assoc, ended]
  exact List.takeWhile_append_dropWhile.symm

theorem trim_spaced (white : IsWhite before) (whiteAfter : IsWhite after) (nonempty : text ≠ [])
    (visible : ∀ c ∈ text, isWhitespace c = false) : trim (before ++ text ++ after) = text := by
  have visibleLast : ∀ c ∈ text.reverse, isWhitespace c = false :=
    fun c member => visible c (List.mem_reverse.1 member)
  have start : trimStart (before ++ text ++ after) = text ++ after := by
    obtain ⟨first, rest, rfl⟩ := List.exists_cons_of_ne_nil nonempty
    rw [List.append_assoc, trimStart_white white]
    exact trimStart_visible (visible first List.mem_cons_self)
  have whiteLast : ∀ c ∈ after.reverse, isWhitespace c = true :=
    fun c member => whiteAfter c (List.mem_reverse.1 member)
  obtain ⟨last, others, ends⟩ := List.exists_cons_of_ne_nil (List.reverse_ne_nil_iff.2 nonempty)
  rw [trim, start, trimEnd, List.reverse_append, List.dropWhile_append_of_pos whiteLast, ends,
    List.dropWhile_cons_of_neg (by simp [visibleLast last (by simp [ends])]), ← ends,
    List.reverse_reverse]

theorem trim_visible (first : ∀ c, text.head? = some c → isWhitespace c = false)
    (last : ∀ c, text.getLast? = some c → isWhitespace c = false) : trim text = text := by
  have start : trimStart text = text := by
    cases text with
    | nil => rfl
    | cons c rest => exact trimStart_visible (first c rfl)
  rw [trim, start, trimEnd]
  cases ends : text.reverse with
  | nil => exact (List.reverse_eq_nil_iff.1 ends).symm
  | cons c others =>
    have visible := last c (by rw [← List.head?_reverse, ends]; rfl)
    rw [List.dropWhile_cons_of_neg (by simp [visible]), ← ends, List.reverse_reverse]

end White

def rebroken : List Char → List Char
  | [] => []
  | c :: rest => if c = '\r' ∧ rest.head? = some '\n' then rebroken rest else c :: rebroken rest

section Lines

variable {line rest text : List Char} {c : Char}

theorem rebroken_append (plain : '\r' ∉ line) : rebroken (line ++ rest) = line ++ rebroken rest := by
  induction line with
  | nil => rfl
  | cons c line ih =>
    have other : c ≠ '\r' := fun same => plain (same ▸ List.mem_cons_self)
    rw [List.cons_append, rebroken, if_neg fun cut => other cut.1,
      ih fun member => plain (List.mem_cons_of_mem _ member), List.cons_append]

theorem rebroken_snoc (other : c ≠ '\n') : rebroken (text ++ [c]) = rebroken text ++ [c] := by
  induction text with
  | nil => simp [rebroken]
  | cons d text ih =>
    have head : (text ++ [c]).head? = some '\n' ↔ text.head? = some '\n' := by
      cases text <;> simp [other]
    simp only [List.cons_append, rebroken, head, ih]
    split <;> rfl

theorem rebroken_subset (text : List Char) : rebroken text ⊆ text := by
  induction text with
  | nil => exact List.Subset.refl []
  | cons c text ih =>
    rw [rebroken]
    split
    · exact List.subset_cons_of_subset c ih
    · exact List.cons_subset_cons c ih

theorem IsWhite.rebroken (white : IsWhite text) : IsWhite (rebroken text) :=
  fun c member => white c (rebroken_subset text member)

/-- A break between two texts is one in them unless it is parted. -/
theorem rebroken_join (apart : text.getLast? ≠ some '\r' ∨ rest.head? ≠ some '\n') :
    rebroken (text ++ rest) = rebroken text ++ rebroken rest := by
  induction text with
  | nil => rfl
  | cons c text ih =>
    rw [List.cons_append, rebroken, rebroken]
    cases text with
    | nil =>
      have whole : ¬ (c = '\r' ∧ rest.head? = some '\n') := by
        rintro ⟨rfl, feed⟩
        exact apart.elim (fun last => last rfl) fun head => head feed
      rw [List.nil_append, if_neg whole]
      simp [rebroken]
    | cons d text =>
      rw [ih (by simpa [List.getLast?_cons_cons] using apart), List.cons_append, List.head?_cons,
        List.head?_cons]
      split <;> rfl

theorem rebroken_visible (visible : isWhitespace c = false) :
    rebroken (text ++ c :: rest) = rebroken text ++ c :: rebroken rest := by
  have breaks : isWhitespace '\r' = true ∧ isWhitespace '\n' = true := by decide
  have other {d : Char} (white : isWhitespace d = true) : c ≠ d := by
    rintro rfl
    rw [white] at visible
    cases visible
  have single : rebroken (c :: rest) = c :: rebroken rest := by
    rw [rebroken, if_neg fun cut => other breaks.1 cut.1]
  rw [rebroken_join (.inr (by simpa using other breaks.2)), single]

theorem rebroken_line (alone : '\n' ∉ line) : rebroken line = line := by
  induction line with
  | nil => rfl
  | cons c line ih =>
    have tail : '\n' ∉ line := fun member => alone (List.mem_cons_of_mem _ member)
    have kept : ¬ (c = '\r' ∧ line.head? = some '\n') := fun cut => tail (List.mem_of_head? cut.2)
    rw [rebroken, if_neg kept, ih tail]

theorem rebroken_feed (alone : '\n' ∉ line) :
    rebroken (line ++ '\n' :: rest) = dropReturn line ++ '\n' :: rebroken rest := by
  induction line with
  | nil => simp [rebroken, dropReturn]
  | cons c line ih =>
    have tail : '\n' ∉ line := fun member => alone (List.mem_cons_of_mem _ member)
    rw [List.cons_append, rebroken, ih tail]
    cases line with
    | nil => by_cases carriage : c = '\r' <;> simp [dropReturn, carriage]
    | cons d line =>
      have other : d ≠ '\n' := fun same => tail (same ▸ List.mem_cons_self)
      have kept : ¬ (c = '\r' ∧ (d :: line ++ '\n' :: rest).head? = some '\n') := by simp [other]
      rw [if_neg kept, dropReturn, dropReturn, List.getLast?_cons_cons]
      split <;> simp

theorem splitOn_feed (alone : '\n' ∉ line) :
    (line ++ '\n' :: rest).splitOn '\n' = line :: rest.splitOn '\n' := by
  apply List.splitOnP_append_cons_of_forall_mem
  · intro c member
    simpa using fun same : c = '\n' => alone (same ▸ member)
  · rfl

theorem lines_feed (alone : '\n' ∉ line) :
    lines (line ++ '\n' :: rest) = dropReturn line :: lines rest := by
  obtain ⟨first, others, pieces⟩ := List.exists_cons_of_ne_nil
    (show rest.splitOn '\n' ≠ [] from List.splitOnP_ne_nil _ _)
  simp only [lines, splitOn_feed alone, pieces, List.dropLast_cons_cons, List.map_cons,
    List.getLast?_cons_cons]
  split <;> rfl

theorem splitOn_alone (alone : '\n' ∉ line) : line.splitOn '\n' = [line] := by
  apply List.splitOnP_eq_singleton
  intro c member
  simpa using fun same : c = '\n' => alone (same ▸ member)

theorem lines_alone (alone : '\n' ∉ line) : lines line = if line = [] then [] else [line] := by
  rw [lines, splitOn_alone alone]
  cases line <;> rfl

theorem lines_induction {motive : List Char → Prop} (last : ∀ line, '\n' ∉ line → motive line)
    (more : ∀ line rest, '\n' ∉ line → motive rest → motive (line ++ '\n' :: rest))
    (text : List Char) : motive text := by
  induction size : text.length using Nat.strongRecOn generalizing text with
  | ind n ih =>
    by_cases fed : '\n' ∈ text
    · obtain ⟨line, rest, rfl, alone⟩ := List.eq_append_cons_of_mem fed
      refine more line rest alone (ih rest.length ?_ rest rfl)
      rw [← size, List.length_append, List.length_cons]
      omega
    · exact last text fed

theorem lines_ne_nil (nonempty : text ≠ []) : lines text ≠ [] := by
  induction text using lines_induction with
  | last line alone => simp [lines_alone alone, nonempty]
  | more line rest alone _ => simp [lines_feed alone]

def IsLineStart (front : List Char) : Prop := ∀ c ∈ front.getLast?, c = '\n'

theorem lineStart_feed : IsLineStart (line ++ '\n' :: rest) ↔ IsLineStart rest := by
  cases rest with
  | nil => simp [IsLineStart]
  | cons c rest => simp [IsLineStart, List.getLast?_append, List.getLast?_cons]

theorem lines_append (start : IsLineStart text) (rest : List Char) :
    lines (text ++ rest) = lines text ++ lines rest := by
  induction text using lines_induction with
  | last line alone =>
    cases ends : line.getLast? with
    | none =>
      rw [List.getLast?_eq_none_iff.1 ends]
      rfl
    | some c => exact absurd (start c ends ▸ List.mem_of_getLast? ends) alone
  | more line text alone ih =>
    rw [List.append_assoc, List.cons_append, lines_feed alone, lines_feed alone,
      ih (lineStart_feed.1 start), List.cons_append]

/-- Where no line begins behind a text, its last line goes on. -/
theorem lineStart_last (goesOn : ¬ IsLineStart text) : ∃ front line, text = front ++ line ∧
    IsLineStart front ∧ line ≠ [] ∧ '\n' ∉ line := by
  induction text using lines_induction with
  | last line alone =>
    refine ⟨[], line, rfl, nofun, ?_, alone⟩
    rintro rfl
    exact goesOn nofun
  | more line text alone ih =>
    obtain ⟨front, last, rfl, start, nonempty, unbroken⟩ := ih (mt lineStart_feed.2 goesOn)
    exact ⟨line ++ '\n' :: front, last, by simp, lineStart_feed.2 start, nonempty, unbroken⟩

theorem joined_cons (line : List Char) {others : List (List Char)} (nonempty : others ≠ []) :
    joined [c] (line :: others) = line ++ c :: joined [c] others := by
  obtain ⟨first, more, rfl⟩ := List.exists_cons_of_ne_nil nonempty
  simp [joined, List.intercalate_cons_cons]

theorem joined_append {lines others : List (List Char)} (begun : lines ≠ []) (nonempty : others ≠ []) :
    joined [c] (lines ++ others) = joined [c] lines ++ c :: joined [c] others := by
  induction lines with
  | nil => exact absurd rfl begun
  | cons line lines ih =>
    cases lines with
    | nil => simpa [joined] using joined_cons line nonempty
    | cons next lines =>
      have more := ih (List.cons_ne_nil next lines)
      rw [List.cons_append, joined_cons line (by simp), joined_cons line (List.cons_ne_nil next lines),
        more, List.append_assoc, List.cons_append]

/-- A character that no line holds stands between the lines alone. -/
theorem joined_split {lines : List (List Char)} {before after : List Char}
    (absent : ∀ line ∈ lines, c ∉ line) (same : joined [c] lines = before ++ c :: after) :
    ∃ front back, lines = front ++ back ∧ front ≠ [] ∧ back ≠ [] ∧ joined [c] front = before ∧
      joined [c] back = after := by
  have nonempty : lines ≠ [] := by
    rintro rfl
    simp [joined] at same
  have pieces := List.splitOn_intercalate c absent nonempty
  have parted : (before ++ c :: after).splitOn c = before.splitOn c ++ after.splitOn c :=
    List.splitOnP_append_cons before after (by simp)
  rw [← joined, same, parted] at pieces
  exact ⟨before.splitOn c, after.splitOn c, pieces.symm, List.splitOnP_ne_nil _ _,
    List.splitOnP_ne_nil _ _, List.intercalate_splitOn c, List.intercalate_splitOn c⟩

/-- A text that does not end in a line feed is its lines with line feeds between them. -/
theorem joined_lines (ended : text.getLast? ≠ some '\n') :
    joined ['\n'] (lines text) = rebroken text := by
  induction text using lines_induction with
  | last line alone =>
    rw [lines_alone alone, rebroken_line alone]
    split
    next empty => rw [empty]; rfl
    next => exact List.intercalate_singleton
  | more line rest alone ih =>
    have nonempty : rest ≠ [] := by
      rintro rfl
      simp at ended
    have endedRest : rest.getLast? ≠ some '\n' := by
      rw [List.getLast?_append, List.getLast?_cons] at ended
      obtain ⟨first, others, rfl⟩ := List.exists_cons_of_ne_nil nonempty
      simpa [List.getLast?_cons] using ended
    rw [lines_feed alone, rebroken_feed alone, ← ih endedRest, joined_cons _ (lines_ne_nil nonempty)]

theorem joined_feed (text : List Char) :
    joined ['\n'] (lines (text ++ ['\n'])) ++ ['\n'] = rebroken (text ++ ['\n']) := by
  induction text using lines_induction with
  | last line alone =>
    rw [lines_feed alone, rebroken_feed alone, lines_alone (by simp), if_pos rfl]
    simp [joined, rebroken]
  | more line rest alone ih =>
    have nonempty : rest ++ ['\n'] ≠ [] := by simp
    rw [List.append_assoc, List.cons_append, lines_feed alone, rebroken_feed alone, ← ih,
      joined_cons _ (lines_ne_nil nonempty), List.append_assoc, List.cons_append]

/-- Joined again, the lines of a text are the text, the white space at its end aside. -/
theorem joined_spaced (visible : isWhitespace c = false) (white : IsWhite rest) :
    ∃ gap, IsWhite gap ∧
      joined ['\n'] (lines (text ++ c :: rest)) = rebroken text ++ c :: gap := by
  have whole := @rebroken_visible rest text c visible
  rcases List.eq_nil_or_concat rest with rfl | ⟨init, last, rfl⟩
  · have ended : (text ++ [c]).getLast? ≠ some '\n' := by
      rw [List.getLast?_concat]
      rintro same
      cases same
      exact absurd visible (by decide)
    exact ⟨[], white, (joined_lines ended).trans whole⟩
  · rw [List.concat_eq_append] at *
    by_cases feed : last = '\n'
    · subst feed
      have fed := joined_feed (text ++ c :: init)
      obtain ⟨gap, ends⟩ : ∃ gap, rebroken (init ++ ['\n']) = gap ++ ['\n'] :=
        ⟨_, (joined_feed init).symm⟩
      have shape : text ++ c :: (init ++ ['\n']) = text ++ c :: init ++ ['\n'] := by simp
      refine ⟨gap, fun d member => white.rebroken d (by simp [ends, member]), ?_⟩
      have split : rebroken text ++ c :: (gap ++ ['\n']) = rebroken text ++ c :: gap ++ ['\n'] := by simp
      rw [← shape, whole, ends, split] at fed
      exact (List.append_inj' fed rfl).1
    · have ended : (text ++ c :: (init ++ [last])).getLast? ≠ some '\n' := by
        rw [← List.cons_append, ← List.append_assoc, List.getLast?_concat]
        simpa using feed
      exact ⟨rebroken (init ++ [last]), white.rebroken, (joined_lines ended).trans whole⟩

/-- A line is a piece of the text at its start or after a line feed. -/
theorem mem_lines (member : line ∈ lines text) :
    ∃ before after, text = before ++ line ++ after ∧
      (before = [] ∨ ∃ front, before = front ++ ['\n']) := by
  induction text using lines_induction with
  | last whole alone =>
    rw [lines_alone alone] at member
    split at member
    next => cases member
    next =>
      rw [List.mem_singleton.1 member]
      exact ⟨[], [], by simp, .inl rfl⟩
  | more first rest alone ih =>
    rw [lines_feed alone] at member
    rcases List.mem_cons.1 member with rfl | member
    · have shape : ∃ tail, first = dropReturn first ++ tail := by
        unfold dropReturn
        split
        next carriage =>
          obtain ⟨front, rfl⟩ := List.getLast?_eq_some_iff.1 carriage
          exact ⟨['\r'], by simp⟩
        next => exact ⟨[], (List.append_nil _).symm⟩
      obtain ⟨tail, same⟩ := shape
      refine ⟨[], tail ++ '\n' :: rest, ?_, .inl rfl⟩
      rw [List.nil_append, ← List.append_assoc, ← same]
    · obtain ⟨before, after, rfl, starts⟩ := ih member
      refine ⟨first ++ '\n' :: before, after, by simp, .inr ?_⟩
      rcases starts with rfl | ⟨front, rfl⟩
      · exact ⟨first, rfl⟩
      · exact ⟨first ++ '\n' :: front, by simp⟩

end Lines

/-- A character that is not kept ends the runs before it. -/
theorem runs_apart {keep : Char → Bool} {c : Char} (dropped : keep c = false) (text rest : List Char) :
    runs keep (text ++ c :: rest) = runs keep text ++ runs keep rest := by
  rw [runs, List.splitOnP_append_cons text rest (by simp [dropped]), List.filter_append]
  rfl

end Inquiry.Text
