import Inquiry.Proofs.Gate.Script
import Inquiry.Proofs.Query.Surroundings

/-!
The script gate and fences. The gate reads an answer as it is, the query is read without the lines of
fences, and a call can be put together only where such lines stand in the white space of it.
-/
namespace Inquiry.Query

open Inquiry.Text (IsWhite IsLineStart)

/-- From the start of a line, blank lines and lines of fences, and white space in the line behind them. -/
inductive IsIndent : List Char → Prop
  | last {gap : List Char} (white : IsWhite gap) (unbroken : '\n' ∉ gap) : IsIndent gap
  | line {line gap : List Char} (unbroken : '\n' ∉ line) (passed : IsWhite line ∨ IsFenceLine line)
      (more : IsIndent gap) : IsIndent (line ++ '\n' :: gap)

inductive IsPassage : List Char → Prop
  | within {gap : List Char} (white : IsWhite gap) (unbroken : '\n' ∉ gap) : IsPassage gap
  | across {blank gap : List Char} (white : IsWhite blank) (unbroken : '\n' ∉ blank)
      (more : IsIndent gap) : IsPassage (blank ++ '\n' :: gap)

def continued (rest : List Char) : List Char :=
  if ((Text.lines rest).filter fun line => !isFence line).isEmpty then [] else '\n' :: withoutFences rest

def remainder (text : List Char) : List Char :=
  match text.dropWhile (· ≠ '\n') with
  | [] => text
  | _ :: rest => Text.dropReturn (text.takeWhile (· ≠ '\n')) ++ continued rest

section Lines

variable {line front back rest text : List Char} {c : Char}

theorem isFenceLine_iff (unbroken : '\n' ∉ line) : isFence line = true ↔ IsFenceLine line := by
  refine ⟨fun fence => ?_, IsFenceLine.isFence⟩
  obtain ⟨gap, rest, white, rfl⟩ := fence_iff.1 fence
  exact ⟨unbroken, gap, rest, white, by simp⟩

theorem isFence_white (white : IsWhite line) : isFence line = false := by
  refine Bool.eq_false_iff.2 fun fence => ?_
  obtain ⟨gap, rest, _, rfl⟩ := fence_iff.1 fence
  exact absurd (white '`' (by simp)) (by decide)

/-- A line is a fence by what stands before its first character that is neither white nor a mark. -/
theorem isFence_visible (visible : Text.isWhitespace c = false) (other : c ≠ '`') :
    isFence (front ++ c :: back) = isFence front := by
  refine Bool.eq_iff_iff.2 ⟨fun fence => ?_, fun fence => ?_⟩
  · obtain ⟨gap, rest, white, same⟩ := fence_iff.1 fence
    have shape : front ++ c :: back = (gap ++ ['`', '`', '`']) ++ rest := by simpa using same
    have early : c ∉ gap ++ ['`', '`', '`'] := by
      intro member
      rcases List.mem_append.1 member with space | mark
      · rw [white c space] at visible
        cases visible
      · exact other (by simpa using mark)
    rcases List.append_eq_append_iff.1 shape with ⟨more, whole, _⟩ | ⟨more, rfl, _⟩
    · cases more with
      | nil => exact fence_iff.2 ⟨gap, [], white, by simpa using whole.symm⟩
      | cons d more =>
        exact absurd (by simp_all) early
    · exact fence_iff.2 ⟨gap, more, white, by simp⟩
  · obtain ⟨gap, rest, white, rfl⟩ := fence_iff.1 fence
    exact fence_iff.2 ⟨gap, rest ++ c :: back, white, by simp⟩

theorem withoutFences_last (unbroken : '\n' ∉ line) :
    withoutFences line = if isFence line then [] else line := by
  rw [withoutFences, Text.lines_alone unbroken]
  by_cases empty : line = []
  · simp [empty, Text.joined]
  · rw [if_neg empty, List.filter_singleton]
    cases isFence line <;> simp [Text.joined]

theorem withoutFences_feed (unbroken : '\n' ∉ line) (rest : List Char) :
    withoutFences (line ++ '\n' :: rest) =
      if isFence line then withoutFences rest else Text.dropReturn line ++ continued rest := by
  rw [withoutFences, Text.lines_feed unbroken, List.filter_cons, ← spaced_isFence (dropReturn_spaced line)]
  cases isFence line with
  | true => rfl
  | false =>
    simp only [Bool.not_false, if_true, Bool.false_eq_true, if_false, continued]
    split
    next empty => simp [List.isEmpty_iff.1 empty, Text.joined]
    next nonempty =>
      rw [Text.joined_cons _ (mt List.isEmpty_iff.2 nonempty)]
      rfl

theorem continued_some (nonempty : withoutFences rest ≠ []) :
    continued rest = '\n' :: withoutFences rest := by
  refine if_neg fun empty => nonempty ?_
  rw [withoutFences, List.isEmpty_iff.1 empty]
  rfl

theorem remainder_line (unbroken : '\n' ∉ line) : remainder line = line := by
  have all : ∀ c ∈ line, decide (c ≠ '\n') = true := by
    simpa using fun c member => ne_of_mem_of_not_mem member unbroken
  rw [remainder, List.dropWhile_eq_nil_iff.2 all]

theorem remainder_feed (unbroken : '\n' ∉ line) (rest : List Char) :
    remainder (line ++ '\n' :: rest) = Text.dropReturn line ++ continued rest := by
  obtain ⟨taken, left⟩ := Text.span_append (fun c => decide (c ≠ '\n')) line ('\n' :: rest)
    (by simpa using fun c member => ne_of_mem_of_not_mem member unbroken) (by simp)
  rw [remainder, left, taken]

theorem dropReturn_visible (visible : Text.isWhitespace c = false) (front back : List Char) :
    Text.dropReturn (front ++ c :: back) = front ++ c :: Text.dropReturn back := by
  have other : c ≠ '\r' := by
    rintro rfl
    exact absurd visible (by decide)
  rcases List.eq_nil_or_concat back with rfl | ⟨init, last, rfl⟩
  · simp [Text.dropReturn, other]
  · have shape : front ++ c :: (init ++ [last]) = (front ++ c :: init) ++ [last] := by simp
    rw [List.concat_eq_append, shape, Text.dropReturn, Text.dropReturn, List.getLast?_concat,
      List.getLast?_concat, List.dropLast_concat, List.dropLast_concat]
    split <;> simp

theorem dropReturn_inv (visible : Text.isWhitespace c = false)
    (kept : Text.dropReturn line = front ++ c :: back) :
    ∃ rest, line = front ++ c :: rest ∧ Text.dropReturn rest = back := by
  obtain ⟨gap, _, whole⟩ := dropReturn_spaced line
  rw [kept, List.append_assoc, List.cons_append] at whole
  refine ⟨back ++ gap, whole, ?_⟩
  rw [whole, dropReturn_visible visible] at kept
  exact (List.cons.inj (List.append_cancel_left kept)).2

theorem feed_or_line (text : List Char) :
    '\n' ∉ text ∨ ∃ line rest, '\n' ∉ line ∧ text = line ++ '\n' :: rest := by
  by_cases broken : '\n' ∈ text
  · obtain ⟨line, rest, shape, unbroken⟩ := List.eq_append_cons_of_mem broken
    exact .inr ⟨line, rest, unbroken, shape⟩
  · exact .inl broken

theorem unbroken_visible (visible : Text.isWhitespace c = false) (unbroken : '\n' ∉ front)
    (unbrokenToo : '\n' ∉ back) : '\n' ∉ front ++ c :: back := by
  have other : '\n' ≠ c := by
    rintro rfl
    exact absurd visible (by decide)
  simp [unbroken, other, unbrokenToo]

theorem remainder_visible (visible : Text.isWhitespace c = false) (unbroken : '\n' ∉ front)
    (rest : List Char) : remainder (front ++ c :: rest) = front ++ c :: remainder rest := by
  rcases feed_or_line rest with alone | ⟨line, more, alone, rfl⟩
  · rw [remainder_line alone, remainder_line (unbroken_visible visible unbroken alone)]
  · have shape : front ++ c :: (line ++ '\n' :: more) = (front ++ c :: line) ++ '\n' :: more := by simp
    rw [shape, remainder_feed (unbroken_visible visible unbroken alone), remainder_feed alone,
      dropReturn_visible visible]
    simp

theorem withoutFences_kept (visible : Text.isWhitespace c = false) (other : c ≠ '`')
    (unbroken : '\n' ∉ front) (kept : isFence front = false) (rest : List Char) :
    withoutFences (front ++ c :: rest) = front ++ c :: remainder rest := by
  have unfenced (back : List Char) : isFence (front ++ c :: back) = false :=
    (isFence_visible visible other).trans kept
  rcases feed_or_line rest with alone | ⟨line, more, alone, rfl⟩
  · rw [remainder_line alone, withoutFences_last (unbroken_visible visible unbroken alone), unfenced]
    rfl
  · have shape : front ++ c :: (line ++ '\n' :: more) = (front ++ c :: line) ++ '\n' :: more := by simp
    rw [shape, withoutFences_feed (unbroken_visible visible unbroken alone), unfenced, remainder_feed alone,
      dropReturn_visible visible]
    simp

theorem continued_inv (visible : Text.isWhitespace c = false) (found : continued rest = front ++ c :: back) :
    ∃ more, front = '\n' :: more ∧ withoutFences rest = more ++ c :: back := by
  unfold continued at found
  split at found
  next => simp at found
  next =>
    cases front with
    | nil =>
      rw [← (List.cons.inj found).1] at visible
      exact absurd visible (by decide)
    | cons d more =>
      obtain ⟨rfl, rest⟩ := List.cons.inj found
      exact ⟨more, rfl, rest⟩

/-- What is found from a line on that is kept stands in it, or in a later one. -/
theorem kept_inv (visible : Text.isWhitespace c = false) (unbroken : '\n' ∉ line)
    (found : Text.dropReturn line ++ continued rest = front ++ c :: back) :
    (∃ more, line = front ++ c :: more ∧ remainder (more ++ '\n' :: rest) = back) ∨
      ∃ more, front = Text.dropReturn line ++ '\n' :: more ∧ withoutFences rest = more ++ c :: back := by
  rcases List.append_eq_append_iff.1 found with ⟨more, rfl, later⟩ | ⟨more, own, later⟩
  · obtain ⟨more, rfl, left⟩ := continued_inv visible later
    exact .inr ⟨more, rfl, left⟩
  · cases more with
    | nil =>
      obtain ⟨_, empty, _⟩ := @continued_inv [] back rest c visible later.symm
      cases empty
    | cons d kept =>
      obtain ⟨rfl, rfl⟩ := List.cons.inj later
      obtain ⟨more, rfl, rfl⟩ := dropReturn_inv visible own
      simp only [List.mem_append, List.mem_cons, not_or] at unbroken
      exact .inl ⟨more, rfl, remainder_feed unbroken.2.2 rest⟩

theorem remainder_inv (visible : Text.isWhitespace c = false) (found : remainder text = front ++ c :: back) :
    (∃ rest, '\n' ∉ front ∧ text = front ++ c :: rest ∧ remainder rest = back) ∨
      ∃ line rest more, '\n' ∉ line ∧ text = line ++ '\n' :: rest ∧
        front = Text.dropReturn line ++ '\n' :: more ∧ withoutFences rest = more ++ c :: back := by
  rcases feed_or_line text with unbroken | ⟨line, rest, unbroken, rfl⟩
  · rw [remainder_line unbroken] at found
    rw [found] at unbroken ⊢
    simp only [List.mem_append, List.mem_cons, not_or] at unbroken
    exact .inl ⟨back, unbroken.1, rfl, remainder_line unbroken.2.2⟩
  · rw [remainder_feed unbroken] at found
    rcases kept_inv visible unbroken found with ⟨more, rfl, left⟩ | ⟨more, same, later⟩
    · simp only [List.mem_append, List.mem_cons, not_or] at unbroken
      exact .inl ⟨more ++ '\n' :: rest, unbroken.1, by simp, left⟩
    · exact .inr ⟨line, rest, more, unbroken, rfl, same, later⟩

end Lines

section Passages

variable {white gap text rest left : List Char} {c : Char}

theorem white_dropReturn {line : List Char} (isWhite : IsWhite line) : IsWhite (Text.dropReturn line) := by
  obtain ⟨gap, _, whole⟩ := dropReturn_spaced line
  exact fun c member => isWhite c (whole ▸ List.mem_append_left gap member)

theorem white_of_dropReturn {line : List Char} (isWhite : IsWhite (Text.dropReturn line)) : IsWhite line := by
  obtain ⟨gap, whiteToo, whole⟩ := dropReturn_spaced line
  rw [whole]
  exact isWhite.append whiteToo

theorem indent_sound (visible : Text.isWhitespace c = false) (isWhite : IsWhite white)
    (found : withoutFences text = white ++ c :: left) :
    ∃ gap rest, IsIndent gap ∧ text = gap ++ c :: rest ∧ remainder rest = left := by
  induction text using Text.lines_induction generalizing white with
  | last line unbroken =>
    rw [withoutFences_last unbroken] at found
    split at found
    next => simp at found
    next =>
      rw [found] at unbroken ⊢
      simp only [List.mem_append, List.mem_cons, not_or] at unbroken
      exact ⟨white, left, .last isWhite unbroken.1, rfl, remainder_line unbroken.2.2⟩
  | more line rest unbroken ih =>
    rw [withoutFences_feed unbroken] at found
    split at found
    next fence =>
      -- a fence leaves nothing, so all the white space is left of the lines below it
      obtain ⟨gap, after, indent, rfl, left⟩ := ih isWhite found
      exact ⟨line ++ '\n' :: gap, after, .line unbroken (.inr ((isFenceLine_iff unbroken).1 fence)) indent,
        by simp, left⟩
    next =>
      rcases kept_inv visible unbroken found with ⟨more, rfl, left⟩ | ⟨more, rfl, later⟩
      · simp only [List.mem_append, List.mem_cons, not_or] at unbroken
        exact ⟨white, more ++ '\n' :: rest, .last isWhite unbroken.1, by simp, left⟩
      · obtain ⟨blank, indented⟩ := List.forall_mem_append.1 isWhite
        obtain ⟨gap, after, indent, rfl, left⟩ := ih (List.forall_mem_cons.1 indented).2 later
        exact ⟨line ++ '\n' :: gap, after, .line unbroken (.inl (white_of_dropReturn blank)) indent, by simp,
          left⟩

theorem indent_complete (visible : Text.isWhitespace c = false) (other : c ≠ '`') (indent : IsIndent gap)
    (rest : List Char) :
    ∃ white, IsWhite white ∧ withoutFences (gap ++ c :: rest) = white ++ c :: remainder rest := by
  induction indent with
  | @last gap isWhite unbroken =>
    exact ⟨gap, isWhite, withoutFences_kept visible other unbroken (isFence_white isWhite) rest⟩
  | @line line gap unbroken passed more ih =>
    obtain ⟨white, isWhite, left⟩ := ih
    rw [List.append_assoc, List.cons_append, withoutFences_feed unbroken]
    rcases passed with blank | fence
    · have nonempty : withoutFences (gap ++ c :: rest) ≠ [] := by simp [left]
      rw [isFence_white blank, continued_some nonempty, left]
      refine ⟨Text.dropReturn line ++ '\n' :: white, ?_, by simp⟩
      exact (white_dropReturn blank).append (List.forall_mem_cons.2 ⟨by decide, isWhite⟩)
    · rw [fence.isFence]
      exact ⟨white, isWhite, left⟩

/-- White space is left where white space and lines of fences have been. -/
theorem passage_iff (visible : Text.isWhitespace c = false) (other : c ≠ '`') :
    (∃ white, IsWhite white ∧ remainder text = white ++ c :: left) ↔
      ∃ gap rest, IsPassage gap ∧ text = gap ++ c :: rest ∧ remainder rest = left := by
  constructor
  · rintro ⟨white, isWhite, found⟩
    rcases remainder_inv visible found with ⟨rest, unbroken, rfl, left⟩ |
        ⟨line, rest, more, unbroken, rfl, rfl, later⟩
    · exact ⟨white, rest, .within isWhite unbroken, rfl, left⟩
    · obtain ⟨blank, indented⟩ := List.forall_mem_append.1 isWhite
      obtain ⟨gap, after, indent, rfl, left⟩ := indent_sound visible (List.forall_mem_cons.1 indented).2 later
      exact ⟨line ++ '\n' :: gap, after, .across (white_of_dropReturn blank) unbroken indent, by simp, left⟩
  · rintro ⟨gap, rest, passage, rfl, rfl⟩
    cases passage with
    | within isWhite unbroken => exact ⟨gap, isWhite, remainder_visible visible unbroken rest⟩
    | @across blank gap isWhite unbroken more =>
      obtain ⟨white, isWhiteToo, left⟩ := indent_complete visible other more rest
      have nonempty : withoutFences (gap ++ c :: rest) ≠ [] := by simp [left]
      rw [List.append_assoc, List.cons_append, remainder_feed unbroken, continued_some nonempty, left]
      refine ⟨Text.dropReturn blank ++ '\n' :: white, ?_, by simp⟩
      exact (white_dropReturn isWhite).append (List.forall_mem_cons.2 ⟨by decide, isWhiteToo⟩)

/-- Visible characters in a row stay so, and no others come to stand in a row. -/
theorem word_iff {word : List Char} (visible : ∀ c ∈ word, Text.isWhitespace c = false) :
    remainder text = word ++ left ↔ ∃ rest, text = word ++ rest ∧ remainder rest = left := by
  induction word generalizing text with
  | nil => simp
  | cons c word ih =>
    obtain ⟨first, others⟩ := List.forall_mem_cons.1 visible
    constructor
    · intro found
      rcases @remainder_inv [] _ _ c first found with ⟨rest, _, rfl, more⟩ | ⟨_, _, _, _, _, broken, _⟩
      · obtain ⟨rest, rfl, left⟩ := (ih others).1 more
        exact ⟨rest, rfl, left⟩
      · simp at broken
    · rintro ⟨rest, rfl, left⟩
      have whole := @remainder_visible [] c first (by simp) (word ++ rest)
      exact whole.trans (congrArg (c :: ·) ((ih others).2 ⟨rest, rfl, left⟩))

theorem suffix_sound {front : List Char} (visible : Text.isWhitespace c = false) (other : c ≠ '`')
    (found : withoutFences text = front ++ c :: left) : ∃ before lead rest, IsLineStart before ∧
      '\n' ∉ lead ∧ ¬ IsFenceLine lead ∧ text = before ++ lead ++ c :: rest ∧ remainder rest = left := by
  have kept {lead back : List Char} (noFence : ¬ isFence (lead ++ c :: back) = true) : ¬ IsFenceLine lead :=
    fun fence => noFence ((isFence_visible visible other).trans fence.isFence)
  induction text using Text.lines_induction generalizing front with
  | last line unbroken =>
    rw [withoutFences_last unbroken] at found
    split at found
    next => simp at found
    next noFence =>
      subst found
      simp only [List.mem_append, List.mem_cons, not_or] at unbroken
      exact ⟨[], front, left, nofun, unbroken.1, kept noFence, rfl, remainder_line unbroken.2.2⟩
  | more line rest unbroken ih =>
    have passed {front : List Char} (found : withoutFences rest = front ++ c :: left) :
        ∃ before lead after, IsLineStart before ∧ '\n' ∉ lead ∧ ¬ IsFenceLine lead ∧
          line ++ '\n' :: rest = before ++ lead ++ c :: after ∧ remainder after = left := by
      obtain ⟨before, lead, after, start, alone, noFence, rfl, same⟩ := ih found
      exact ⟨line ++ '\n' :: before, lead, after, Text.lineStart_feed.2 start, alone, noFence, by simp, same⟩
    rw [withoutFences_feed unbroken] at found
    split at found
    next => exact passed found
    next noFence =>
      rcases kept_inv visible unbroken found with ⟨more, rfl, same⟩ | ⟨_, _, found⟩
      · simp only [List.mem_append, List.mem_cons, not_or] at unbroken
        exact ⟨[], front, more ++ '\n' :: rest, nofun, unbroken.1, kept noFence, by simp, same⟩
      · exact passed found

theorem suffix_complete {before lead : List Char} (visible : Text.isWhitespace c = false) (other : c ≠ '`')
    (start : IsLineStart before) (unbroken : '\n' ∉ lead) (kept : ¬ IsFenceLine lead) (rest : List Char) :
    c :: remainder rest <:+ withoutFences (before ++ lead ++ c :: rest) := by
  have own : c :: remainder rest <:+ withoutFences (lead ++ c :: rest) := by
    rw [withoutFences_kept visible other unbroken (by simpa [← isFenceLine_iff unbroken] using kept)]
    exact List.suffix_append lead _
  induction before using Text.lines_induction with
  | last line alone =>
    -- the start of a line, with no feed before it, is the start of the text
    cases ends : line.getLast? with
    | none =>
      rw [List.getLast?_eq_none_iff.1 ends]
      exact own
    | some d => exact absurd (start d ends ▸ List.mem_of_getLast? ends) alone
  | more line before alone ih =>
    have later := ih (Text.lineStart_feed.1 start)
    have shape : line ++ '\n' :: before ++ lead ++ c :: rest =
        line ++ '\n' :: (before ++ lead ++ c :: rest) := by simp
    rw [shape, withoutFences_feed alone]
    split
    next => exact later
    next =>
      have nonempty : withoutFences (before ++ lead ++ c :: rest) ≠ [] := by
        intro empty
        rw [empty] at later
        exact absurd (List.suffix_nil.1 later) (by simp)
      rw [continued_some nonempty]
      exact later.trans ((List.suffix_cons _ _).trans (List.suffix_append _ _))

/-- What is left stands in a line that is no fence. -/
theorem suffix_iff (visible : Text.isWhitespace c = false) (other : c ≠ '`') :
    c :: left <:+ withoutFences text ↔ ∃ before lead rest, IsLineStart before ∧ '\n' ∉ lead ∧
      ¬ IsFenceLine lead ∧ text = before ++ lead ++ c :: rest ∧ remainder rest = left := by
  constructor
  · rintro ⟨front, found⟩
    exact suffix_sound visible other found.symm
  · rintro ⟨before, lead, rest, start, unbroken, kept, rfl, rfl⟩
    exact suffix_complete visible other start unbroken kept rest

/-- A word and a bracket with white space around the word are left of the same with passages there. -/
theorem spaced_iff {word : List Char} (nonempty : word ≠ [])
    (visible : ∀ c ∈ word, Text.isWhitespace c = false ∧ c ≠ '`') :
    (∃ gap blank more, IsWhite gap ∧ IsWhite blank ∧ remainder text = gap ++ word ++ blank ++ '(' :: more) ↔
      ∃ gap blank rest, IsPassage gap ∧ IsPassage blank ∧ text = gap ++ word ++ blank ++ '(' :: rest := by
  obtain ⟨first, others, rfl⟩ := List.exists_cons_of_ne_nil nonempty
  obtain ⟨⟨firstVisible, other⟩, visible⟩ := List.forall_mem_cons.1 visible
  have dark : ∀ c ∈ others, Text.isWhitespace c = false := fun c member => (visible c member).1
  have bracket : Text.isWhitespace '(' = false ∧ '(' ≠ '`' := by decide
  constructor
  · rintro ⟨gap, blank, more, white, whiteToo, found⟩
    have begun : remainder text = gap ++ first :: (others ++ (blank ++ '(' :: more)) := by simp [found]
    obtain ⟨gap, tail, passage, rfl, named⟩ := (passage_iff firstVisible other).1 ⟨gap, white, begun⟩
    obtain ⟨tail, rfl, opened⟩ := (word_iff dark).1 named
    obtain ⟨blank, rest, passageToo, rfl, _⟩ := (passage_iff bracket.1 bracket.2).1 ⟨blank, whiteToo, opened⟩
    exact ⟨gap, blank, rest, passage, passageToo, by simp⟩
  · rintro ⟨gap, blank, rest, passage, passageToo, rfl⟩
    obtain ⟨white, isWhite, opened⟩ :=
      (passage_iff bracket.1 bracket.2).2 ⟨blank, rest, passageToo, rfl, rfl⟩
    have named := (word_iff dark).2 ⟨blank ++ '(' :: rest, rfl, opened⟩
    obtain ⟨space, isSpace, found⟩ := (passage_iff firstVisible other).2 ⟨gap, _, passage, rfl, named⟩
    refine ⟨space, white, remainder rest, isSpace, isWhite, ?_⟩
    simpa using found

end Passages

end Inquiry.Query

namespace Inquiry.Gate

open Query (IsFenceLine IsPassage withoutFences)
open Inquiry.Text (IsWhite IsLineStart)

/-- A text around a call of a method: what stands before the line of its dot and in it, and what stands
around the name of the method as it is written. -/
structure CallParts where
  method : String
  before : List Char
  lead : List Char
  gap : List Char
  written : List Char
  blank : List Char
  rest : List Char

namespace CallParts

def text (parts : CallParts) : List Char :=
  parts.before ++ parts.lead ++
    '.' :: (parts.gap ++ parts.written ++ parts.blank ++ '(' :: parts.rest)

/-- A write call with a dot in no line of a fence, and only white space and such lines around its name. -/
structure IsCall (parts : CallParts) : Prop where
  listed : parts.method ∈ writeMethods
  spelt : Spells parts.method.toList parts.written
  start : IsLineStart parts.before
  unbroken : '\n' ∉ parts.lead
  outside : ¬ IsFenceLine parts.lead
  gap : IsPassage parts.gap
  blank : IsPassage parts.blank

def IsInterrupted (parts : CallParts) : Prop := ¬ (IsWhite parts.gap ∧ IsWhite parts.blank)

end CallParts

theorem hasCall_unfenced {text : List Char} : HasCall (withoutFences text) ↔
    ∃ parts : CallParts, parts.text = text ∧ parts.IsCall := by
  have dot : Text.isWhitespace '.' = false ∧ '.' ≠ '`' := by decide
  have name {method : String} {written : List Char} (listed : method ∈ writeMethods)
      (spelt : Spells method.toList written) :
      written ≠ [] ∧ ∀ c ∈ written, Text.isWhitespace c = false ∧ c ≠ '`' := by
    have letters := methods_letters listed
    refine ⟨?_, fun c member => ?_⟩
    · rintro rfl
      exact letters.1 (List.length_eq_zero_iff.1 spelt.length_eq)
    · have letter := spelt.alphabetic letters.2 c member
      refine ⟨Text.alphabetic_dark letter, ?_⟩
      rintro rfl
      exact absurd letter (by decide)
  constructor
  · rintro ⟨left, inside, method, written, listed, spelt, gap, blank, more, white, whiteToo, shape⟩
    obtain ⟨nonempty, visible⟩ := name listed spelt
    obtain ⟨before, lead, rest, start, unbroken, outside, rfl, rfl⟩ := (Query.suffix_iff dot.1 dot.2).1 inside
    obtain ⟨gap, blank, rest, passage, passageToo, rfl⟩ :=
      (Query.spaced_iff nonempty visible).1 ⟨gap, blank, more, white, whiteToo, shape⟩
    exact ⟨⟨method, before, lead, gap, written, blank, rest⟩, rfl,
      ⟨listed, spelt, start, unbroken, outside, passage, passageToo⟩⟩
  · rintro ⟨parts, rfl, call⟩
    obtain ⟨nonempty, visible⟩ := name call.listed call.spelt
    obtain ⟨gap, blank, more, white, whiteToo, shape⟩ := (Query.spaced_iff nonempty visible).2
      ⟨parts.gap, parts.blank, parts.rest, call.gap, call.blank, rfl⟩
    exact ⟨_, (Query.suffix_iff dot.1 dot.2).2 ⟨parts.before, parts.lead, _, call.start, call.unbroken,
      call.outside, rfl, rfl⟩, parts.method, parts.written, call.listed, call.spelt, gap, blank, more, white,
      whiteToo, shape⟩

theorem CallParts.IsCall.hasCall {parts : CallParts} (call : parts.IsCall)
    (whole : ¬ parts.IsInterrupted) : HasCall parts.text := by
  obtain ⟨white, whiteToo⟩ := not_not.1 whole
  exact ⟨_, List.suffix_append _ _, parts.method, parts.written, call.listed, call.spelt, parts.gap,
    parts.blank, parts.rest, white, whiteToo, rfl⟩

/-- Without its fences a text that is let through is let through as well, unless lines of fences stand
in a write call of it. -/
theorem screenScript_unfenced (text : String) (accepted : screenScript text = none) :
    screenScript (String.ofList (withoutFences text.toList)) = none ↔
      ¬ ∃ parts : CallParts, parts.text = text.toList ∧ parts.IsCall ∧ parts.IsInterrupted := by
  have unseen : ¬ HasCall text.toList := fun has => screenChars_refuses.2 has accepted
  rw [← not_iff_not, not_not, screenScript, String.toList_ofList]
  refine screenChars_refuses.trans (hasCall_unfenced.trans (exists_congr fun parts => ?_))
  refine and_congr_right fun same => ⟨fun call => ⟨call, fun whole => ?_⟩, And.left⟩
  exact unseen (same ▸ call.hasCall (not_not.2 whole))

def splitText : String := "db.orders.find(\x7b\x7d).\n```\ndeleteOne(\x7b\x7d)"

/-- The gate does not see the call that is put together when the fence is left out. -/
theorem screenScript_split : screenScript splitText = none ∧
    screenScript (String.ofList (withoutFences splitText.toList)) = some ⟨".deleteOne("⟩ := by
  decide +kernel

theorem screenScript_unfenced_split :
    ∃ parts : CallParts, parts.text = splitText.toList ∧ parts.IsCall ∧ parts.IsInterrupted := by
  have accepted : screenScript splitText = none := by decide +kernel
  have refused : screenScript (String.ofList (withoutFences splitText.toList)) ≠ none := by decide +kernel
  exact not_not.1 (mt (screenScript_unfenced splitText accepted).2 refused)

end Inquiry.Gate
