import Inquiry.Proofs.Query.ValueCall

/-! The constructor calls of the shell as they can be written; each is found as it stands. -/
namespace Inquiry.ValueCall

/-- What a call makes: an identifier, or a date, which is the current one without an argument. -/
inductive Made where
  | id (hex : List Char)
  | date (argument : Option (List Char))

def Made.isDate : Made → Bool
  | .id _ => false
  | .date _ => true

def Made.object (now : List Char) : Made → List Char
  | .id hex => "\x7b\"$oid\": \"".toList ++ hex ++ "\"\x7d".toList
  | .date none => dateObject now
  | .date (some argument) => dateObject (normalized argument)

inductive IsArgument : Option (List Char) → List Char → Prop
  | none {gap : List Char} (white : Text.IsWhite gap) : IsArgument none gap
  | given {before content after : List Char} {opening closing : Char} (white : Text.IsWhite before)
      (whiteAfter : Text.IsWhite after) (opens : isMark opening = true)
      (closes : isMark closing = true) (unmarked : ∀ c ∈ content, isMark c = false) :
      IsArgument (some content) (before ++ opening :: (content ++ closing :: after))

inductive IsDateName : List Char → Prop
  | iso : IsDateName "ISODate".toList
  | constructor {gap : List Char} (white : Text.IsWhite gap) (nonempty : gap ≠ []) :
      IsDateName ("new".toList ++ (gap ++ "Date".toList))

inductive IsCall : Made → List Char → Prop
  | id {hex inside : List Char} (length : hex.length = 24)
      (digits : ∀ c ∈ hex, Extended.isHex c = true) (argument : IsArgument (some hex) inside) :
      IsCall (.id hex) ("ObjectId".toList ++ '(' :: (inside ++ [')']))
  | date {argument : Option (List Char)} {name inside : List Char} (named : IsDateName name)
      (given : IsArgument argument inside) :
      IsCall (.date argument) (name ++ '(' :: (inside ++ [')']))

section Reading

variable {text rest inside name : List Char} {argument : Option (List Char)}

theorem isMark_iff {c : Char} : isMark c = true ↔ c = '"' ∨ c = '\'' := by simp [isMark]

theorem mark_dark {c : Char} (mark : isMark c = true) : Text.isWhitespace c = false := by
  rcases isMark_iff.1 mark with rfl | rfl <;> decide

theorem mark_iff : mark? text = some rest ↔ ∃ c, isMark c = true ∧ text = c :: rest := by
  cases text with
  | nil => simp [mark?]
  | cons c text =>
    simp only [mark?, Option.ite_none_right_eq_some, Option.some.injEq, List.cons.injEq]
    constructor
    · rintro ⟨mark, rfl⟩
      exact ⟨c, mark, rfl, rfl⟩
    · rintro ⟨_, mark, rfl, rfl⟩
      exact ⟨mark, rfl⟩

theorem closing_iff :
    closing? text = some rest ↔ ∃ gap, Text.IsWhite gap ∧ text = gap ++ ')' :: rest := by
  rw [closing?, Text.after_iff]
  exact Text.trimStart_iff (by decide)

/-- An argument between marks, as both kinds of calls read it. -/
theorem argument_iff {content : List Char} :
    (∃ argument, IsArgument (some content) argument ∧ inside = argument ++ ')' :: rest) ↔
      (∀ c ∈ content, isMark c = false) ∧ ∃ closed more,
        mark? (Text.trimStart inside) = some (content ++ closed) ∧ mark? closed = some more ∧
          closing? more = some rest := by
  constructor
  · rintro ⟨_, argument, rfl⟩
    cases argument with
    | @given before _ after opening closing white whiteAfter opens closes unmarked =>
      refine ⟨unmarked, closing :: (after ++ ')' :: rest), after ++ ')' :: rest, ?_,
        mark_iff.2 ⟨closing, closes, rfl⟩, closing_iff.2 ⟨after, whiteAfter, rfl⟩⟩
      have shape : before ++ opening :: (content ++ closing :: after) ++ ')' :: rest =
          before ++ opening :: (content ++ closing :: (after ++ ')' :: rest)) := by simp
      rw [shape, Text.trimStart_white white, Text.trimStart_visible (mark_dark opens)]
      exact mark_iff.2 ⟨opening, opens, rfl⟩
  · rintro ⟨unmarked, closed, more, begun, ended, ends⟩
    obtain ⟨opening, opens, shape⟩ := mark_iff.1 begun
    obtain ⟨before, white, rfl⟩ := (Text.trimStart_iff (mark_dark opens)).1 shape
    obtain ⟨closing, closes, rfl⟩ := mark_iff.1 ended
    obtain ⟨after, whiteAfter, rfl⟩ := closing_iff.1 ends
    exact ⟨_, .given white whiteAfter opens closes unmarked, by simp⟩

theorem hex_unmarked (digits : ∀ c ∈ text, Extended.isHex c = true) :
    ∀ c ∈ text, isMark c = false := by
  intro c member
  refine Bool.eq_false_iff.2 fun mark => ?_
  have digit := digits c member
  rcases isMark_iff.1 mark with rfl | rfl <;> exact absurd digit (by decide)

theorem objectId_iff {replacement : List Char} : objectId text = some (replacement, rest) ↔
    ∃ hex call, IsCall (.id hex) call ∧ text = call ++ rest ∧
      replacement = (Made.id hex).object [] := by
  constructor
  · intro found
    simp only [objectId, bind, Option.bind_eq_some_iff, Text.after_iff] at found
    obtain ⟨inside, rfl, opened, begun, found⟩ := found
    split at found
    next => cases found
    next hex =>
      simp only [Option.bind_eq_some_iff] at found
      obtain ⟨more, ended, after, ends, same⟩ := found
      obtain ⟨rfl, rfl⟩ := Prod.mk.inj (Option.some.inj same)
      simp only [Bool.not_eq_true', Bool.not_eq_false, Bool.and_eq_true, beq_iff_eq,
        List.all_eq_true] at hex
      rw [← List.take_append_drop 24 opened] at begun
      obtain ⟨argument, isArgument, rfl⟩ :=
        argument_iff.2 ⟨hex_unmarked hex.2, _, _, begun, ended, ends⟩
      exact ⟨opened.take 24, _, .id hex.1 hex.2 isArgument, by simp, rfl⟩
  · rintro ⟨hex, call, isCall, rfl, rfl⟩
    cases isCall with
    | @id _ inside length digits argument =>
      obtain ⟨_, closed, more, begun, ended, ends⟩ :=
        (@argument_iff rest _ hex).1 ⟨inside, argument, rfl⟩
      have shape : "ObjectId".toList ++ '(' :: (inside ++ [')']) ++ rest =
          "ObjectId(".toList ++ (inside ++ ')' :: rest) := by simp
      have whole : (hex.length == 24 && hex.all Extended.isHex) = true := by
        simpa [length] using digits
      rw [shape, objectId, Text.after_append]
      simp only [bind, Option.bind_some, begun, List.take_left' length, List.drop_left' length,
        whole, ended, ends]
      rfl

theorem dateCall_iff : dateCall? text = some rest ↔
    ∃ name, IsDateName name ∧ text = name ++ '(' :: rest := by
  have iso : "ISODate(".toList = "ISODate".toList ++ ['('] := rfl
  have opened : "Date(".toList = 'D' :: ("ate".toList ++ ['(']) := rfl
  have named : "Date".toList = 'D' :: "ate".toList := rfl
  have dark : Text.isWhitespace 'D' = false := by decide
  constructor
  · intro found
    unfold dateCall? at found
    split at found
    next begun =>
      cases found
      have shape := Text.after_iff.1 begun
      rw [iso] at shape
      exact ⟨_, .iso, by simpa using shape⟩
    next =>
      simp only [bind, Option.bind_eq_some_iff] at found
      obtain ⟨left, begun, gap, first, found⟩ := found
      split at found
      next => cases found
      next white =>
        have trimmed := Text.after_iff.1 found
        rw [opened, List.cons_append, Text.trimStart_iff dark] at trimmed
        obtain ⟨before, whiteBefore, rfl⟩ := trimmed
        refine ⟨_, .constructor whiteBefore ?_, ?_⟩
        · rintro rfl
          cases first
          exact white (by decide)
        · rw [Text.after_iff.1 begun, named]
          simp
  · rintro ⟨name, named, rfl⟩
    cases named with
    | iso => rfl
    | @constructor gap white nonempty =>
      obtain ⟨first, gap, rfl⟩ := List.exists_cons_of_ne_nil nonempty
      have trimmed : Text.trimStart (first :: gap ++ ("Date".toList ++ '(' :: rest)) =
          "Date(".toList ++ rest := (Text.trimStart_iff dark).2 ⟨first :: gap, white, rfl⟩
      have shape : "new".toList ++ (first :: gap ++ "Date".toList) ++ '(' :: rest =
          "new".toList ++ (first :: gap ++ ("Date".toList ++ '(' :: rest)) := by simp
      have other : Text.after? "ISODate(".toList ("new".toList ++ (first :: gap ++
        ("Date".toList ++ '(' :: rest))) = none := rfl
      rw [shape, dateCall?, other]
      simp only [Text.after_append, bind, Option.bind_some]
      rw [trimmed, Text.after_append]
      simp [white first List.mem_cons_self]

theorem date_iff {now replacement : List Char} : date now text = some (replacement, rest) ↔
    ∃ argument call, IsCall (.date argument) call ∧ text = call ++ rest ∧
      replacement = (Made.date argument).object now := by
  constructor
  · intro found
    simp only [date, bind, Option.bind_eq_some_iff, dateCall_iff] at found
    obtain ⟨inside, ⟨name, named, rfl⟩, found⟩ := found
    split at found
    next =>
      simp only [Option.bind_eq_some_iff] at found
      obtain ⟨after, ends, same⟩ := found
      obtain ⟨rfl, rfl⟩ := Prod.mk.inj (Option.some.inj same)
      obtain ⟨gap, white, shape⟩ := closing_iff.1 ends
      obtain ⟨before, whiteBefore, whole⟩ := Text.trimStart_parts inside
      refine ⟨none, _, .date named (.none (whiteBefore.append white)), ?_, rfl⟩
      rw [whole, shape]
      simp
    next content begun =>
      simp only [Option.bind_eq_some_iff] at found
      obtain ⟨more, ended, after, ends, same⟩ := found
      obtain ⟨rfl, rfl⟩ := Prod.mk.inj (Option.some.inj same)
      have unmarked : ∀ c ∈ content.takeWhile (fun c => !isMark c), isMark c = false := by
        intro c member
        have kept := List.all_eq_true.1 List.all_takeWhile c member
        simpa using kept
      rw [← @List.takeWhile_append_dropWhile _ (fun c => !isMark c) content] at begun
      obtain ⟨argument, given, rfl⟩ := argument_iff.2 ⟨unmarked, _, _, begun, ended, ends⟩
      exact ⟨some _, _, .date named given, by simp, rfl⟩
  · rintro ⟨argument, call, isCall, rfl, rfl⟩
    cases isCall with
    | @date _ name inside named given =>
      have opened : dateCall? (name ++ '(' :: (inside ++ [')']) ++ rest) =
          some (inside ++ ')' :: rest) := dateCall_iff.2 ⟨name, named, by simp⟩
      rw [date, opened]
      simp only [bind, Option.bind_some]
      cases argument with
      | none =>
        cases given with
        | none white =>
          have trimmed : Text.trimStart (inside ++ ')' :: rest) = ')' :: rest :=
            (Text.trimStart_iff (by decide)).2 ⟨inside, white, rfl⟩
          have unmarked : mark? (')' :: rest) = none := rfl
          have closed : closing? (')' :: rest) = some rest :=
            closing_iff.2 ⟨[], by simp [Text.IsWhite], rfl⟩
          simp only [trimmed, unmarked, closed]
          rfl
      | some content =>
        obtain ⟨unmarked, closed, more, begun, ended, ends⟩ :=
          (@argument_iff rest _ content).1 ⟨inside, given, rfl⟩
        obtain ⟨closing, closes, rfl⟩ := mark_iff.1 ended
        obtain ⟨taken, left⟩ := Text.span_append (fun c => !isMark c) content (closing :: more)
          (fun c member => by simp [unmarked c member]) (by simp [closes])
        simp only [begun, taken, left, ended, ends, Option.bind_some]
        rfl

end Reading

end Inquiry.ValueCall
