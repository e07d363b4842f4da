import Inquiry.Proofs.Json.Printed
import Inquiry.Proofs.Json.Written
import Inquiry.Proofs.Text.Property
import Inquiry.Query.Relaxed

/-!
What one pass over a text does to each of its tokens: blanks, words, names, strings and regular
expressions.
-/
namespace Inquiry.Relaxed

open Json

section Characters

variable {c : Char}

theorem namePart_plain (part : isNamePart c = true) : 0x20 ≤ c.toNat ∧ c ≠ '"' ∧ c ≠ '\\' := by
  refine ⟨?_, ?_, ?_⟩
  · simp only [isNamePart, Text.isAlphanumeric, Bool.or_eq_true, beq_iff_eq] at part
    rcases part with (((letter | number) | rfl) | rfl) | rfl
    · exact Text.alphabetic_visible letter
    · exact Text.number_visible number
    all_goals decide
  all_goals
    rintro rfl
    exact absurd part (by decide)

theorem nameStart_part (start : isNameStart c = true) : isNamePart c = true := by
  simp only [isNameStart, Bool.or_eq_true] at start
  rcases start with (letter | underscore) | dollar
  · simp [isNamePart, Text.isAlphanumeric, letter]
  · simp [isNamePart, underscore]
  · simp [isNamePart, dollar]

theorem alpha_plain (letter : c.isAlpha = true) : 0x20 ≤ c.toNat ∧ c ≠ '"' ∧ c ≠ '\\' := by
  have ascii : Text.isAscii c = true := by
    have range := Text.alpha_range letter
    simp only [Text.isAscii, decide_eq_true_eq]
    omega
  apply namePart_plain
  simp [isNamePart, Text.isAlphanumeric, Text.isAlphabetic, ascii, letter]

theorem blank_space (blank : isBlank c = true) : Text.isWhitespace c = true := by
  rcases blank_iff.1 blank with rfl | rfl | rfl | rfl <;> decide

theorem blank_namePart (blank : isBlank c = true) : isNamePart c = false := by
  rcases blank_iff.1 blank with rfl | rfl | rfl | rfl <;> decide

/-- A character that stands for itself wherever no name can begin. -/
def Passes (c : Char) : Prop := c ≠ '"' ∧ c ≠ '\'' ∧ c ≠ '/' ∧ c ≠ ']' ∧ c ≠ '\x7d'

instance : DecidablePred Passes := fun c =>
  inferInstanceAs (Decidable (c ≠ '"' ∧ c ≠ '\'' ∧ c ≠ '/' ∧ c ≠ ']' ∧ c ≠ '\x7d'))

theorem plainStep_passes {last : Option Char} {out : List Char} (passes : Passes c)
    (noName : isNameStart c = false ∨ startsKey last = false) :
    plainStep last out c = ⟨.plain, if Text.isWhitespace c then last else some c, c :: out⟩ := by
  obtain ⟨double, single, slash, list, object⟩ := passes
  have outside : (isNameStart c && startsKey last) = false := by
    rcases noName with start | key
    · rw [start, Bool.false_and]
    · rw [key, Bool.and_false]
  simp [plainStep, double, single, slash, list, object, outside]

theorem plainStep_blank {last : Option Char} {out : List Char} (blank : isBlank c = true) :
    plainStep last out c = ⟨.plain, last, c :: out⟩ := by
  have passes : Passes c ∧ isNameStart c = false := by
    rcases blank_iff.1 blank with rfl | rfl | rfl | rfl <;>
      exact ⟨by simp [Passes], by decide⟩
  rw [plainStep_passes passes.1 (.inl passes.2), blank_space blank]
  rfl

end Characters

/-- A pass that takes blanks and marks as it would outside everything, whatever has just ended. -/
inductive Settled : Pass → Option Char → List Char → Prop
  | plain (last : Option Char) (out : List Char) : Settled ⟨.plain, last, out⟩ last out
  | name (first : Char) (rest : List Char) (last : Option Char) (out : List Char) :
      Settled ⟨.name (first :: rest), last, out⟩ (some first) (first :: rest ++ out)
  | afterName (first : Char) (rest gap : List Char) (last : Option Char) (out : List Char) :
      Settled ⟨.afterName (first :: rest) gap, last, out⟩ (some first)
        (gap ++ (first :: rest ++ out))
  | flags (pattern seen : List Char) (last : Option Char) (out : List Char) :
      Settled ⟨.flags pattern seen, last, out⟩ (some '\x7d') (withPattern pattern seen out)

section Passes

variable {pass : Pass} {last : Option Char} {out : List Char} {c : Char}

theorem Settled.step_blank (settled : Settled pass last out) (blank : isBlank c = true) :
    Settled (step pass c) last (c :: out) := by
  have space := blank_space blank
  cases settled with
  | plain =>
    rw [step, plainStep_blank blank]
    exact .plain _ _
  | name first rest before out =>
    simp only [step, blank_namePart blank, space, Bool.false_eq_true, if_false, if_true]
    exact .afterName first rest [c] before out
  | afterName first rest gap before out =>
    simp only [step, space, if_true]
    exact .afterName first rest (c :: gap) before out
  | flags pattern seen before out =>
    have letter : c.isAlpha = false := by
      rcases blank_iff.1 blank with rfl | rfl | rfl | rfl <;> decide
    simp only [step, letter, Bool.false_eq_true, if_false, plainStep_blank blank]
    exact .plain _ _

theorem Settled.after_gap (settled : Settled pass last out) {gap : List Char} (blank : IsGap gap) :
    Settled (gap.foldl step pass) last (gap.reverse ++ out) := by
  induction gap generalizing pass out with
  | nil => exact settled
  | cons c rest ih =>
    have next := settled.step_blank blank.head
    rw [List.reverse_cons, List.append_assoc]
    exact ih next blank.tail

def IsMark (c : Char) : Prop := c = ',' ∨ c = ']' ∨ c = '\x7d'

theorem Settled.step_mark (settled : Settled pass last out) (mark : IsMark c) :
    step pass c = plainStep last out c := by
  have plain : isNamePart c = false ∧ Text.isWhitespace c = false ∧ c.isAlpha = false ∧ c ≠ ':' := by
    rcases mark with rfl | rfl | rfl <;> decide
  cases settled <;> simp [step, plain, withName]

theorem Settled.finish (settled : Settled pass last out) : pass.finish = out := by
  cases settled <;> simp [Pass.finish, withName]

theorem plainStep_sign (sign : c = ',' ∨ c = ':' ∨ c = '[' ∨ c = '\x7b') :
    plainStep last out c = ⟨.plain, some c, c :: out⟩ := by
  have passes : Passes c ∧ isNameStart c = false ∧ Text.isWhitespace c = false := by
    rcases sign with rfl | rfl | rfl | rfl <;> exact ⟨by simp [Passes], by decide, by decide⟩
  rw [plainStep_passes passes.1 (.inl passes.2.1), passes.2.2]
  rfl

theorem plainStep_close (closer : c = ']' ∨ c = '\x7d') :
    plainStep last out c = ⟨.plain, some c, c :: dropComma out⟩ := by
  rcases closer with rfl | rfl
  · simp [plainStep, show isNameStart ']' = false by decide]
  · simp [plainStep, show isNameStart '\x7d' = false by decide]

/-- Characters that are only gathered end up before what was gathered earlier. -/
theorem gathered (state : List Char → Pass) {text seen : List Char}
    (kept : ∀ c ∈ text, ∀ seen, step (state seen) c = state (c :: seen)) :
    text.foldl step (state seen) = state (text.reverse ++ seen) := by
  induction text generalizing seen with
  | nil => rfl
  | cons c rest ih =>
    rw [List.foldl_cons, kept c List.mem_cons_self,
      ih fun d member => kept d (List.mem_cons_of_mem _ member)]
    simp

theorem plain_gap {gap : List Char} (blank : IsGap gap) :
    gap.foldl step ⟨.plain, last, out⟩ = ⟨.plain, last, gap.reverse ++ out⟩ :=
  gathered (fun out => ⟨.plain, last, out⟩) fun c member _ => plainStep_blank (blank c member)

end Passes

section Tokens

variable {last : Option Char} {out : List Char}

def IsLiteralPart (c : Char) : Prop :=
  Passes c ∧ c ≠ ',' ∧ c ≠ '\x7b' ∧ Text.isWhitespace c = false

instance : DecidablePred IsLiteralPart := fun c =>
  inferInstanceAs (Decidable (Passes c ∧ c ≠ ',' ∧ c ≠ '\x7b' ∧ Text.isWhitespace c = false))

theorem plain_literal {rest : List Char} {before : Char} (noKey : startsKey (some before) = false)
    (parts : ∀ c ∈ rest, IsLiteralPart c) :
    ∃ next, Settled (rest.foldl step ⟨.plain, some before, out⟩) next (rest.reverse ++ out) := by
  induction rest generalizing before out with
  | nil => exact ⟨_, .plain _ _⟩
  | cons c rest ih =>
    obtain ⟨passes, comma, brace, dark⟩ := parts c List.mem_cons_self
    have single := @plainStep_passes c (some before) out passes (.inr noKey)
    rw [dark] at single
    rw [List.foldl_cons, step, single, List.reverse_cons, List.append_assoc]
    apply ih
    · simp [startsKey, comma, brace]
    · intro d member
      exact parts d (List.mem_cons_of_mem _ member)

theorem name_parts {rest seen : List Char} (parts : ∀ c ∈ rest, isNamePart c = true) :
    rest.foldl step ⟨.name seen, last, out⟩ = ⟨.name (rest.reverse ++ seen), last, out⟩ := by
  refine gathered (fun seen => ⟨.name seen, last, out⟩) fun c member seen => ?_
  simp [step, parts c member]

theorem begin_name {c : Char} (start : isNameStart c = true) (key : startsKey last = true) :
    step ⟨.plain, last, out⟩ c = ⟨.name [c], last, out⟩ := by
  have other : c ≠ '"' ∧ c ≠ '\'' ∧ c ≠ '/' := by
    refine ⟨?_, ?_, ?_⟩ <;>
      · rintro rfl
        exact absurd start (by decide)
  simp [step, plainStep, other, start, key]

theorem after_name {first : Char} {rest : List Char} (start : isNameStart first = true)
    (parts : ∀ c ∈ rest, isNamePart c = true) (key : startsKey last = true) :
    (first :: rest).foldl step ⟨.plain, last, out⟩ =
      ⟨.name (first :: rest).reverse, last, out⟩ := by
  rw [List.foldl_cons, begin_name start key, name_parts parts, List.reverse_cons]

/-- A word or a number: a name where a key may come, each of its characters alone elsewhere. -/
theorem after_literal {first : Char} {rest : List Char}
    (parts : ∀ c ∈ first :: rest, IsLiteralPart c)
    (named : isNameStart first = true → ∀ c ∈ rest, isNamePart c = true) :
    ∃ next, Settled ((first :: rest).foldl step ⟨.plain, last, out⟩) next
      ((first :: rest).reverse ++ out) := by
  by_cases begins : isNameStart first = true ∧ startsKey last = true
  · obtain ⟨start, key⟩ := begins
    rw [after_name start (named start) key]
    obtain ⟨nearest, others, shape⟩ := List.exists_cons_of_ne_nil (show (first :: rest).reverse ≠ []
      by simp)
    rw [shape]
    exact ⟨_, .name nearest others last out⟩
  · have noName : isNameStart first = false ∨ startsKey last = false := by
      by_cases start : isNameStart first = true
      · exact .inr (by simpa [start] using begins)
      · exact .inl (by simpa using start)
    obtain ⟨passes, comma, brace, dark⟩ := parts first List.mem_cons_self
    have single := @plainStep_passes first last out passes noName
    rw [dark] at single
    rw [List.foldl_cons, step, single, List.reverse_cons, List.append_assoc]
    apply plain_literal
    · simp [startsKey, comma, brace]
    · intro d member
      exact parts d (List.mem_cons_of_mem _ member)

theorem hexDigit_inside {c : Char} {digit : Nat} (read : hexValue? c = some digit) :
    c ≠ '"' ∧ c ≠ '\'' ∧ c ≠ '\\' := by
  refine ⟨?_, ?_, ?_⟩ <;>
    · rintro rfl
      cases read

theorem isUnit_inside {digits : List Char} {unit : Nat} (read : IsUnit digits unit) :
    ∀ c ∈ digits, c ≠ '"' ∧ c ≠ '\'' ∧ c ≠ '\\' := by
  obtain ⟨a, b, c, d, rfl, w, x, y, z, first, second, third, fourth, _⟩ := read
  intro digit member
  simp only [List.mem_cons, List.not_mem_nil, or_false] at member
  rcases member with rfl | rfl | rfl | rfl
  · exact hexDigit_inside first
  · exact hexDigit_inside second
  · exact hexDigit_inside third
  · exact hexDigit_inside fourth

/-- What contains neither its mark nor a backslash stays as it is inside a string. -/
theorem inside_string {mode : Mode} (verbatim : mode = .double ∨ mode = .single) {text : List Char}
    (inside : ∀ c ∈ text, c ≠ '"' ∧ c ≠ '\'' ∧ c ≠ '\\') :
    text.foldl step ⟨mode, last, out⟩ = ⟨mode, last, text.reverse ++ out⟩ := by
  refine gathered (fun out => ⟨mode, last, out⟩) fun c member out => ?_
  rcases verbatim with rfl | rfl <;> simp [step, inside c member]

theorem double_escape (c : Char) :
    ['\\', c].foldl step ⟨.double, last, out⟩ = ⟨.double, last, c :: '\\' :: out⟩ := rfl

theorem single_escape {c : Char} (other : c ≠ '\'') :
    ['\\', c].foldl step ⟨.single, last, out⟩ = ⟨.single, last, c :: '\\' :: out⟩ := by
  simp [step, other]

theorem double_spelt {content body : List Char} (spelt : Spells '"' content body) :
    body.foldl step ⟨.double, last, out⟩ = ⟨.double, last, body.reverse ++ out⟩ := by
  induction spelt generalizing out with
  | nil => rfl
  | @plain c text body visible inside unescaped rest ih =>
    have kept : step ⟨.double, last, out⟩ c = ⟨.double, last, c :: out⟩ := by
      simp [step, inside, unescaped]
    rw [List.foldl_cons, kept, ih]
    simp
  | @escape letter c text body listed rest ih =>
    rw [show '\\' :: letter :: body = ['\\', letter] ++ body from rfl, List.foldl_append,
      double_escape, ih]
    simp
  | apostrophe single => exact absurd single (by decide)
  | @unit c digits text body meant rest ih =>
    rw [show '\\' :: 'u' :: (digits ++ body) = ['\\', 'u'] ++ (digits ++ body) from rfl,
      List.foldl_append, double_escape, List.foldl_append,
      inside_string (.inl rfl) (isUnit_inside meant), ih]
    simp
  | @pair c high low text body wide upper lower rest ih =>
    rw [show '\\' :: 'u' :: (high ++ '\\' :: 'u' :: (low ++ body)) =
        ['\\', 'u'] ++ (high ++ (['\\', 'u'] ++ (low ++ body))) from rfl,
      List.foldl_append, double_escape, List.foldl_append,
      inside_string (.inl rfl) (isUnit_inside upper), List.foldl_append, double_escape,
      List.foldl_append, inside_string (.inl rfl) (isUnit_inside lower), ih]
    simp

/-- A body between single quotes becomes one between double quotes that spells the same. -/
theorem single_spelt {content body : List Char} (spelt : Spells '\'' content body) :
    ∃ strict, Spells '"' content strict ∧ ∀ last out,
      body.foldl step ⟨.single, last, out⟩ = ⟨.single, last, strict.reverse ++ out⟩ := by
  induction spelt with
  | nil => exact ⟨[], .nil, fun last out => rfl⟩
  | @plain c text body visible inside unescaped rest ih =>
    obtain ⟨strict, same, run⟩ := ih
    by_cases quote : c = '"'
    · subst quote
      refine ⟨_, .escape (show ('"', '"') ∈ escapeLetters by decide) same, fun last out => ?_⟩
      have escaped : step ⟨.single, last, out⟩ '"' = ⟨.single, last, '"' :: '\\' :: out⟩ := rfl
      rw [List.foldl_cons, escaped, run]
      simp
    · refine ⟨_, .plain visible quote unescaped same, fun last out => ?_⟩
      have kept : step ⟨.single, last, out⟩ c = ⟨.single, last, c :: out⟩ := by
        simp [step, inside, unescaped, quote]
      rw [List.foldl_cons, kept, run]
      simp
  | @escape letter c text body listed rest ih =>
    obtain ⟨strict, same, run⟩ := ih
    refine ⟨_, .escape listed same, fun last out => ?_⟩
    have other : letter ≠ '\'' := by
      rintro rfl
      simp [escapeLetters] at listed
    rw [show '\\' :: letter :: body = ['\\', letter] ++ body from rfl, List.foldl_append,
      single_escape other, run]
    simp
  | @apostrophe text body single rest ih =>
    obtain ⟨strict, same, run⟩ := ih
    refine ⟨_, .plain (by decide) (by decide) (by decide) same, fun last out => ?_⟩
    have kept : ['\\', '\''].foldl step ⟨.single, last, out⟩ = ⟨.single, last, '\'' :: out⟩ := rfl
    rw [show '\\' :: '\'' :: body = ['\\', '\''] ++ body from rfl, List.foldl_append, kept, run]
    simp
  | @unit c digits text body meant rest ih =>
    obtain ⟨strict, same, run⟩ := ih
    refine ⟨_, .unit meant same, fun last out => ?_⟩
    rw [show '\\' :: 'u' :: (digits ++ body) = ['\\', 'u'] ++ (digits ++ body) from rfl,
      List.foldl_append, single_escape (by decide), List.foldl_append,
      inside_string (.inr rfl) (isUnit_inside meant), run]
    simp
  | @pair c high low text body wide upper lower rest ih =>
    obtain ⟨strict, same, run⟩ := ih
    refine ⟨_, .pair wide upper lower same, fun last out => ?_⟩
    rw [show '\\' :: 'u' :: (high ++ '\\' :: 'u' :: (low ++ body)) =
        ['\\', 'u'] ++ (high ++ (['\\', 'u'] ++ (low ++ body))) from rfl,
      List.foldl_append, single_escape (by decide), List.foldl_append,
      inside_string (.inr rfl) (isUnit_inside upper), List.foldl_append,
      single_escape (by decide), List.foldl_append,
      inside_string (.inr rfl) (isUnit_inside lower), run]
    simp

theorem after_quoted {content : String} {text : List Char} (quoted : Quoted .shell content text) :
    ∃ strict, Quoted .strict content strict ∧ ∀ last out,
      text.foldl step ⟨.plain, last, out⟩ = ⟨.plain, some '"', strict.reverse ++ out⟩ := by
  cases quoted with
  | @double body spelt =>
    refine ⟨_, .double spelt, fun last out => ?_⟩
    have opened : step ⟨.plain, last, out⟩ '"' = ⟨.double, last, '"' :: out⟩ := rfl
    rw [List.foldl_cons, opened, List.foldl_append, double_spelt spelt]
    simp [step]
  | @single body shell spelt =>
    obtain ⟨strict, same, run⟩ := single_spelt spelt
    refine ⟨_, .double same, fun last out => ?_⟩
    have opened : step ⟨.plain, last, out⟩ '\'' = ⟨.single, last, '"' :: out⟩ := rfl
    rw [List.foldl_cons, opened, List.foldl_append, run]
    simp [step]

theorem name_colon {seen gap : List Char} (blank : IsGap gap) :
    (gap ++ [':']).foldl step ⟨.name seen, last, out⟩ =
      ⟨.plain, some ':', ':' :: (gap.reverse ++ '"' :: (seen ++ '"' :: out))⟩ := by
  have colon : isNamePart ':' = false ∧ Text.isWhitespace ':' = false := by decide
  cases gap with
  | nil =>
    simp [step, colon, withName, plainStep_sign]
  | cons c rest =>
    have begun : step ⟨.name seen, last, out⟩ c = ⟨.afterName seen [c], last, out⟩ := by
      simp [step, blank_namePart blank.head, blank_space blank.head]
    have spaced {known : List Char} : rest.foldl step ⟨.afterName seen known, last, out⟩ =
        ⟨.afterName seen (rest.reverse ++ known), last, out⟩ := by
      refine gathered (fun known => ⟨.afterName seen known, last, out⟩) fun d member known => ?_
      simp [step, blank_space (blank.tail d member)]
    rw [List.cons_append, List.foldl_cons, begun, List.foldl_append, spaced]
    simp [step, colon, withName, plainStep_sign]

theorem bareKey_parts {name : List Char} (bare : IsBareKey name) :
    ∃ first rest, name = first :: rest ∧ isNameStart first = true ∧
      ∀ c ∈ rest, isNamePart c = true := by
  cases name with
  | nil => exact bare.elim
  | cons first rest =>
    refine ⟨first, rest, rfl, ?_, fun c member => ?_⟩
    · rcases bare.1 with letter | rfl | rfl
      · simp [isNameStart, letter]
      all_goals decide
    · rcases bare.2 c member with part | rfl | rfl | rfl
      · simp [isNamePart, part]
      all_goals decide

theorem after_label {name : String} {label : List Char} (labelled : Label .shell name label) :
    ∃ strict, Label .strict name strict ∧ ∀ last out, startsKey last = true →
      label.foldl step ⟨.plain, last, out⟩ = ⟨.plain, some ':', strict.reverse ++ out⟩ := by
  obtain ⟨blankBefore, blankGap, named⟩ := labelled
  cases named with
  | quoted quoted =>
    obtain ⟨strict, same, run⟩ := after_quoted quoted
    refine ⟨_, .intro blankBefore blankGap (.quoted same), fun last out _ => ?_⟩
    rw [List.foldl_append, List.foldl_append, List.foldl_append, plain_gap blankBefore, run,
      plain_gap blankGap, List.foldl_cons, step, plainStep_sign (.inr (.inl rfl))]
    simp
  | bare shell bare =>
    obtain ⟨first, rest, parts, start, more⟩ := bareKey_parts bare
    have spelt : Spells '"' name.toList name.toList := by
      apply spells_plain
      rw [parts]
      intro c member
      rcases List.mem_cons.1 member with rfl | member
      · exact namePart_plain (nameStart_part start)
      · exact namePart_plain (more c member)
    refine ⟨_, .intro blankBefore blankGap (.quoted (.double spelt)), fun last out key => ?_⟩
    rw [List.append_assoc, List.append_assoc, List.foldl_append, List.foldl_append,
      plain_gap blankBefore, parts, after_name start more key, name_colon blankGap]
    simp

theorem after_source {pattern seen : List Char} (source : IsPattern pattern) :
    pattern.foldl step ⟨.pattern seen, last, out⟩ =
      ⟨.pattern (pattern.reverse ++ seen), last, out⟩ := by
  induction source generalizing seen with
  | nil => rfl
  | @plain c rest inside unescaped more ih =>
    have kept : step ⟨.pattern seen, last, out⟩ c = ⟨.pattern (c :: seen), last, out⟩ := by
      simp [step, inside, unescaped]
    rw [List.foldl_cons, kept, ih]
    simp
  | @escaped c rest more ih =>
    have kept : ['\\', c].foldl step ⟨.pattern seen, last, out⟩ =
        ⟨.pattern (c :: '\\' :: seen), last, out⟩ := rfl
    rw [show '\\' :: c :: rest = ['\\', c] ++ rest from rfl, List.foldl_append, kept, ih]
    simp

theorem after_flags {pattern seen flags : List Char} (letters : ∀ c ∈ flags, c.isAlpha = true) :
    flags.foldl step ⟨.flags pattern seen, last, out⟩ =
      ⟨.flags pattern (flags.reverse ++ seen), last, out⟩ := by
  refine gathered (fun seen => ⟨.flags pattern seen, last, out⟩) fun c member seen => ?_
  simp [step, letters c member]

theorem after_pattern {pattern flags : List Char} (source : IsPattern pattern)
    (letters : ∀ c ∈ flags, c.isAlpha = true) (starts : startsPattern last = true) :
    ('/' :: (pattern ++ '/' :: flags)).foldl step ⟨.plain, last, out⟩ =
      ⟨.flags pattern.reverse flags.reverse, last, out⟩ := by
  have opened : step ⟨.plain, last, out⟩ '/' = ⟨.pattern [], last, out⟩ := by
    simp [step, plainStep, starts]
  have closed : step ⟨.pattern pattern.reverse, last, out⟩ '/' =
      ⟨.flags pattern.reverse [], last, out⟩ := rfl
  rw [List.foldl_cons, opened, List.foldl_append, after_source source, List.append_nil,
    List.foldl_cons, closed, after_flags letters, List.append_nil]

end Tokens

end Inquiry.Relaxed
