import Inquiry.Proofs.Json.Empty
import Inquiry.Proofs.Query.Relaxed

/-!
What is made strict keeps at least one character of every key and value in it, so only braces with
blanks and one comma between them are read as an object without entries.
-/
namespace Inquiry.Relaxed

open Json

/-- A character that stands neither between members nor around them. -/
def Soils (c : Char) : Prop := Text.isWhitespace c = false ∧ c ≠ ',' ∧ c ≠ '\x7b' ∧ c ≠ '\x7d'

instance : DecidablePred Soils := fun c =>
  inferInstanceAs (Decidable (Text.isWhitespace c = false ∧ c ≠ ',' ∧ c ≠ '\x7b' ∧ c ≠ '\x7d'))

def IsSoiled (text : List Char) : Prop := ∃ c ∈ text, Soils c

def Pass.Soiled (pass : Pass) : Prop :=
  match pass.mode with
  | .plain | .double | .doubleEscape | .single | .singleEscape => IsSoiled pass.out
  | .pattern _ | .patternEscape _ | .flags _ _ => True
  | .name seen | .afterName seen _ => IsSoiled seen

section Soiling

variable {text more out : List Char} {c : Char} {last : Option Char} {pass : Pass}

theorem IsSoiled.cons (soiled : IsSoiled text) : IsSoiled (c :: text) := by
  obtain ⟨d, member, soils⟩ := soiled
  exact ⟨d, List.mem_cons_of_mem _ member, soils⟩

theorem IsSoiled.left (soiled : IsSoiled text) : IsSoiled (text ++ more) := by
  obtain ⟨d, member, soils⟩ := soiled
  exact ⟨d, List.mem_append_left _ member, soils⟩

theorem IsSoiled.right (soiled : IsSoiled more) : IsSoiled (text ++ more) := by
  obtain ⟨d, member, soils⟩ := soiled
  exact ⟨d, List.mem_append_right _ member, soils⟩

theorem soiled_head (soils : Soils c) : IsSoiled (c :: text) := ⟨c, List.mem_cons_self, soils⟩

theorem soiled_quote : IsSoiled ('"' :: text) := soiled_head (by decide)

theorem soiled_reverse (soiled : IsSoiled text) : IsSoiled text.reverse := by
  obtain ⟨d, member, soils⟩ := soiled
  exact ⟨d, List.mem_reverse.2 member, soils⟩

/-- A closing bracket takes away no more than a comma and blanks. -/
theorem dropComma_parts (out : List Char) : dropComma out = out ∨
    ∃ gap, out = gap ++ ',' :: dropComma out ∧ ∀ c ∈ gap, Text.isWhitespace c = true := by
  unfold dropComma
  split
  next rest shape =>
    refine .inr ⟨out.takeWhile Text.isWhitespace, ?_, fun c member => ?_⟩
    · rw [← shape, List.takeWhile_append_dropWhile]
    · exact List.all_eq_true.1 List.all_takeWhile c member
  next => exact .inl rfl

theorem dropComma_soiled (soiled : IsSoiled out) : IsSoiled (dropComma out) := by
  rcases dropComma_parts out with same | ⟨gap, shape, blank⟩
  · rwa [same]
  · obtain ⟨d, member, soils⟩ := soiled
    rw [shape] at member
    rcases List.mem_append.1 member with inGap | after
    · have white := blank d inGap
      rw [soils.1] at white
      cases white
    · rcases List.mem_cons.1 after with rfl | kept
      · exact absurd rfl soils.2.1
      · exact ⟨d, kept, soils⟩

theorem nameStart_soils (start : isNameStart c = true) : Soils c := by
  have signs : isNameStart ',' = false ∧ isNameStart '\x7b' = false ∧ isNameStart '\x7d' = false := by
    decide
  refine ⟨?_, ?_, ?_, ?_⟩
  · simp only [isNameStart, Bool.or_eq_true, beq_iff_eq] at start
    rcases start with (letter | rfl) | rfl
    · exact Text.alphabetic_dark letter
    · decide
    · decide
  all_goals
    rintro rfl
    simp [signs] at start

theorem withPattern_soiled (pattern flags : List Char) : IsSoiled (withPattern pattern flags out) := by
  rw [withPattern, patternObject_eq, patternText_eq]
  refine IsSoiled.left (soiled_reverse ?_)
  exact soiled_quote.cons.left.left.left.left

theorem withName_soiled (isKey : Bool) {name : List Char} (gap : List Char) (soiled : IsSoiled name) :
    IsSoiled (withName isKey name gap out) := by
  unfold withName
  split
  · exact soiled_quote.right
  · exact soiled.right.left

theorem plainStep_soiled (soiled : IsSoiled out ∨ Soils c) : (plainStep last out c).Soiled := by
  unfold plainStep
  split
  next => exact soiled_quote
  next =>
    split
    next => exact soiled_quote
    next =>
      split
      next => trivial
      next =>
        split
        next start => exact soiled_head (nameStart_soils (Bool.and_eq_true_iff.1 start).1)
        next =>
          split
          next =>
            exact soiled.elim (fun written => (dropComma_soiled written).cons) soiled_head
          next => exact soiled.elim IsSoiled.cons soiled_head

/-- What is soiled stays so. -/
theorem step_soiled (soiled : pass.Soiled) (c : Char) : (step pass c).Soiled := by
  obtain ⟨mode, last, out⟩ := pass
  cases mode with
  | plain => exact plainStep_soiled (.inl soiled)
  | double =>
    simp only [step]
    split
    next => exact IsSoiled.cons soiled
    next => split <;> exact IsSoiled.cons soiled
  | doubleEscape => exact IsSoiled.cons soiled
  | single =>
    simp only [step]
    split
    next => exact soiled_quote
    next =>
      split
      next => exact soiled
      next => split <;> exact IsSoiled.cons (by first | exact soiled | exact IsSoiled.cons soiled)
  | singleEscape =>
    simp only [step]
    split
    next => exact IsSoiled.cons soiled
    next => exact IsSoiled.cons (IsSoiled.cons soiled)
  | pattern seen =>
    simp only [step]
    split
    next => trivial
    next => split <;> trivial
  | patternEscape seen => trivial
  | flags pattern seen =>
    simp only [step]
    split
    next => trivial
    next => exact plainStep_soiled (.inl (withPattern_soiled _ _))
  | name seen =>
    simp only [step]
    split
    next => exact IsSoiled.cons soiled
    next =>
      split
      next => exact soiled
      next => exact plainStep_soiled (.inl (withName_soiled _ _ soiled))
  | afterName name gap =>
    simp only [step]
    split
    next => exact soiled
    next => exact plainStep_soiled (.inl (withName_soiled _ _ soiled))

theorem foldl_soiled (soiled : pass.Soiled) : (text.foldl step pass).Soiled := by
  induction text generalizing pass with
  | nil => exact soiled
  | cons c text ih => exact ih (step_soiled soiled c)

theorem finish_soiled (soiled : pass.Soiled) : IsSoiled pass.finish := by
  obtain ⟨mode, last, out⟩ := pass
  cases mode with
  | plain | double | doubleEscape => exact soiled
  | single => exact soiled_quote
  | singleEscape => exact soiled_quote
  | pattern | patternEscape | flags => exact withPattern_soiled _ _
  | name | afterName => exact withName_soiled _ _ soiled

def cleanStep (out : List Char) (c : Char) : List Char :=
  if c = '\x7d' then c :: dropComma out else c :: out

theorem step_clean (clean : ¬ Soils c) :
    ∃ after, step ⟨.plain, last, out⟩ c = ⟨.plain, after, cleanStep out c⟩ := by
  have other {mark : Char} (soils : Soils mark) : c ≠ mark := fun same => clean (same ▸ soils)
  have marks : Soils '"' ∧ Soils '\'' ∧ Soils '/' ∧ Soils ']' := by decide
  have noName : isNameStart c = false := Bool.eq_false_iff.2 fun start => clean (nameStart_soils start)
  by_cases closing : c = '\x7d'
  · subst closing
    rw [step, plainStep_close (.inr rfl), cleanStep, if_pos rfl]
    exact ⟨_, rfl⟩
  · have passes : Passes c :=
      ⟨other marks.1, other marks.2.1, other marks.2.2.1, other marks.2.2.2, closing⟩
    rw [step, plainStep_passes passes (.inl noName), cleanStep, if_neg closing]
    exact ⟨_, rfl⟩

theorem foldl_clean (clean : ¬ IsSoiled text) :
    ∃ after, text.foldl step ⟨.plain, last, out⟩ = ⟨.plain, after, text.foldl cleanStep out⟩ := by
  induction text generalizing last out with
  | nil => exact ⟨last, rfl⟩
  | cons c text ih =>
    obtain ⟨after, stepped⟩ := @step_clean out c last fun soils => clean (soiled_head soils)
    rw [List.foldl_cons, stepped]
    exact ih fun soiled => clean soiled.cons

theorem foldl_soils (soiled : IsSoiled text) : (text.foldl step ⟨.plain, last, out⟩).Soiled := by
  induction text generalizing last out with
  | nil =>
    obtain ⟨c, member, _⟩ := soiled
    cases member
  | cons c text ih =>
    by_cases soils : Soils c
    · rw [List.foldl_cons]
      exact foldl_soiled (plainStep_soiled (.inr soils))
    · obtain ⟨after, stepped⟩ := @step_clean out c last soils
      obtain ⟨d, member, soilsLater⟩ := soiled
      rw [List.foldl_cons, stepped]
      rcases List.mem_cons.1 member with rfl | later
      · exact absurd soilsLater soils
      · exact ih ⟨d, later, soilsLater⟩

theorem strict_soiled (soiled : IsSoiled text) : IsSoiled (strict text) :=
  soiled_reverse (finish_soiled (foldl_soils soiled))

theorem count_dropComma (dark : Text.isWhitespace c = false) (other : c ≠ ',') :
    (dropComma out).count c = out.count c := by
  rcases dropComma_parts out with same | ⟨gap, shape, blank⟩
  · rw [same]
  · have uncounted : gap.count c = 0 := by
      refine List.count_eq_zero.2 fun member => ?_
      rw [blank c member] at dark
      cases dark
    have counted := congrArg (List.count c) shape
    rw [List.count_append, uncounted, List.count_cons_of_ne other.symm, Nat.zero_add] at counted
    exact counted.symm

/-- No brace comes or goes. -/
theorem count_clean (brace : c = '\x7b' ∨ c = '\x7d') :
    (text.foldl cleanStep out).count c = text.count c + out.count c := by
  have signs : Text.isWhitespace c = false ∧ c ≠ ',' := by
    rcases brace with rfl | rfl <;> decide
  induction text generalizing out with
  | nil => simp
  | cons d text ih =>
    have step : (cleanStep out d).count c = (d :: out).count c := by
      unfold cleanStep
      split
      next => rw [List.count_cons, List.count_cons, count_dropComma signs.1 signs.2]
      next => rfl
    rw [List.foldl_cons, ih, step, List.count_cons, List.count_cons]
    omega

theorem cleanStep_open (unclosed : '\x7d' ∉ text) : text.foldl cleanStep out = text.reverse ++ out := by
  induction text generalizing out with
  | nil => rfl
  | cons c text ih =>
    have other : c ≠ '\x7d' := fun same => unclosed (same ▸ List.mem_cons_self)
    rw [List.foldl_cons, cleanStep, if_neg other, ih fun member => unclosed (List.mem_cons_of_mem _ member)]
    simp

end Soiling

/-- Braces with nothing between them but blanks and at most one comma. -/
def IsHollow (group : List Char) : Prop :=
  ∃ inside, group = '\x7b' :: (inside ++ ['\x7d']) ∧
    (∀ c ∈ inside, Text.isWhitespace c = true ∨ c = ',') ∧ inside.count ',' ≤ 1

section Hollow

variable {text inside : List Char}

theorem empty_clean (read : Json.read text = .ok (.object [])) : ¬ IsSoiled text ∧
    text.count '\x7b' = 1 ∧ text.count '\x7d' = 1 ∧ text.count ',' = 0 := by
  obtain ⟨front, gap, back, rfl, blankFront, blankGap, blankBack⟩ := read_empty read
  have uncounted {c : Char} (dark : Json.isBlank c = false) {part : List Char} (blank : IsGap part) :
      part.count c = 0 := by
    refine List.count_eq_zero.2 fun member => ?_
    rw [blank c member] at dark
    cases dark
  refine ⟨?_, ?_, ?_, ?_⟩
  · rintro ⟨c, member, dark, _, opening, closing⟩
    have visible : ¬ Json.isBlank c = true := fun blank => by
      rw [blank_space blank] at dark
      cases dark
    simp only [List.mem_append, List.mem_cons] at member
    rcases member with inFront | rfl | inGap | rfl | inBack
    · exact visible (blankFront c inFront)
    · exact opening rfl
    · exact visible (blankGap c inGap)
    · exact closing rfl
    · exact visible (blankBack c inBack)
  all_goals simp [uncounted, blankFront, blankGap, blankBack, Json.isBlank]

/-- Between braces that are the only ones, in a text that nothing soils. -/
theorem inside_braces (clean : ¬ IsSoiled ('\x7b' :: (inside ++ ['\x7d'])))
    (opening : List.count '\x7b' ('\x7b' :: (inside ++ ['\x7d'])) = 1)
    (closing : List.count '\x7d' ('\x7b' :: (inside ++ ['\x7d'])) = 1) :
    '\x7d' ∉ inside ∧ ∀ c ∈ inside, Text.isWhitespace c = true ∨ c = ',' := by
  have noOpening : '\x7b' ∉ inside := by
    simpa [List.count_cons, List.count_append, List.count_eq_zero] using opening
  have noClosing : '\x7d' ∉ inside := by
    simpa [List.count_cons, List.count_append, List.count_eq_zero] using closing
  refine ⟨noClosing, fun c member => ?_⟩
  by_cases white : Text.isWhitespace c = true
  · exact .inl white
  · refine .inr (Decidable.not_not.1 fun comma => clean ⟨c, by simp [member], ?_, comma, ?_, ?_⟩)
    · exact Bool.eq_false_iff.2 white
    · rintro rfl
      exact noOpening member
    · rintro rfl
      exact noClosing member

/-- Strict or made so, braces that are read as the empty object are hollow. -/
theorem read_hollow (read : Json.read ('\x7b' :: (inside ++ ['\x7d'])) = .ok (.object [])) :
    IsHollow ('\x7b' :: (inside ++ ['\x7d'])) := by
  obtain ⟨clean, opening, closing, comma⟩ := empty_clean read
  refine ⟨inside, rfl, (inside_braces clean opening closing).2, ?_⟩
  simp only [List.count_cons, List.count_append] at comma
  omega

theorem strict_hollow (read : Json.read (strict ('\x7b' :: (inside ++ ['\x7d']))) = .ok (.object [])) :
    IsHollow ('\x7b' :: (inside ++ ['\x7d'])) := by
  obtain ⟨clean, opening, closing, comma⟩ := empty_clean read
  have cleanText : ¬ IsSoiled ('\x7b' :: (inside ++ ['\x7d'])) := fun soiled => clean (strict_soiled soiled)
  obtain ⟨after, passed⟩ := @foldl_clean _ [] none cleanText
  have made : strict ('\x7b' :: (inside ++ ['\x7d'])) =
      (('\x7b' :: (inside ++ ['\x7d'])).foldl cleanStep []).reverse := by
    rw [strict, passed]
    rfl
  rw [made, List.count_reverse] at opening closing comma
  rw [count_clean (.inl rfl)] at opening
  rw [count_clean (.inr rfl)] at closing
  obtain ⟨unclosed, between⟩ := inside_braces cleanText opening closing
  refine ⟨inside, rfl, between, ?_⟩
  have out : ('\x7b' :: (inside ++ ['\x7d'])).foldl cleanStep [] =
      '\x7d' :: dropComma (inside.reverse ++ ['\x7b']) := by
    have opened : cleanStep [] '\x7b' = ['\x7b'] := rfl
    rw [List.foldl_cons, opened, List.foldl_append, cleanStep_open unclosed]
    rfl
  have counted : (dropComma (inside.reverse ++ ['\x7b'])).count ',' = 0 := by
    rw [out] at comma
    simpa [List.count_cons] using comma
  have whole : inside.count ',' = (inside.reverse ++ ['\x7b']).count ',' := by
    simp [List.count_append]
  rw [whole]
  rcases dropComma_parts (inside.reverse ++ ['\x7b']) with same | ⟨gap, shape, blank⟩
  · rw [same] at counted
    omega
  · have uncounted : gap.count ',' = 0 := by
      refine List.count_eq_zero.2 fun member => ?_
      exact absurd (blank ',' member) (by decide)
    rw [shape, List.count_append, List.count_cons_self]
    omega

end Hollow

end Inquiry.Relaxed
