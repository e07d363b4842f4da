import Inquiry.Gate.Question
import Inquiry.Proofs.Text.Case
import Inquiry.Proofs.Text.Cut

/-!
The verdict on a question made of two texts. Only the word right before a word can exempt it, so the
second text is judged as if it stood alone, but for its first word after the last word of the first.
-/
namespace Inquiry.Gate

def IsReadPhrase (before word : List Char) : Prop :=
  (before = "last".toList ∨ before = "recently".toList) ∧
    (word = "updated".toList ∨ word = "modified".toList)

def ReadsAcross (front back : String) : Prop :=
  ∃ before word, (words front.toList).getLast? = some before ∧
    (words back.toList).head? = some word ∧ IsReadPhrase before word

/-- The verdict on a text whose first word is exempt; to the second word it is still the one before. -/
def screenExempt (text : String) : Option Blocked :=
  screenWords (words text.toList).head? (words text.toList).tail

section Words

variable {previous : Option (List Char)} {front back : List (List Char)} {before word : List Char}
  {verb : String}

theorem screenWords_append : screenWords previous (front ++ back) =
    (screenWords previous front).or (screenWords (front.getLast?.or previous) back) := by
  induction front generalizing previous with
  | nil => rfl
  | cons word rest ih =>
    have last : (word :: rest).getLast?.or previous = rest.getLast?.or (some word) := by
      cases rest <;> simp [List.getLast?_cons]
    rw [List.cons_append, screenWords, screenWords, last, ih]
    split
    · rfl
    · split <;> rfl

theorem readPhrase_iff :
    (harmlessPairs.any fun pair => pair.1.toList = before && pair.2.toList = word) = true ↔
      IsReadPhrase before word := by
  simp only [harmlessPairs, IsReadPhrase, List.any_cons, List.any_nil, Bool.or_eq_true,
    Bool.and_eq_true, decide_eq_true_eq, Bool.or_false, eq_comm (b := before), eq_comm (b := word)]
  rw [and_or_left, or_and_right, or_and_right, or_assoc]

theorem isHarmless_some : isHarmless (some before) word = true ↔
    isHarmless none word = true ∨ IsReadPhrase before word := by
  rw [← readPhrase_iff, ← Bool.or_eq_true, isHarmless, isHarmless, Bool.or_false]

theorem screenWords_blocked (plain : isHarmless previous word = false) (found : verb? word = some verb) :
    screenWords previous (word :: back) = some ⟨verb⟩ := by
  rw [screenWords, plain, found]
  rfl

/-- Without the word before it, the second word of a phrase blocks. -/
theorem IsReadPhrase.blocks (phrase : IsReadPhrase before word) :
    screenWords none (word :: back) ≠ none := by
  have update : verb? "updated".toList = some "update" := by decide
  have modify : verb? "modified".toList = some "modify" := by decide
  rcases phrase.2 with rfl | rfl
  · rw [screenWords_blocked (by decide) update]
    exact Option.some_ne_none _
  · rw [screenWords_blocked (by decide) modify]
    exact Option.some_ne_none _

theorem screenWords_apart (apart : ¬ IsReadPhrase before word) :
    screenWords (some before) (word :: back) = screenWords none (word :: back) := by
  have same : isHarmless (some before) word = isHarmless none word := by
    rw [Bool.eq_iff_iff, isHarmless_some, or_iff_left apart]
  rw [screenWords, screenWords, same]

theorem screenWords_exempt (phrase : IsReadPhrase before word) :
    screenWords (some before) (word :: back) = screenWords (some word) back := by
  rw [screenWords, if_pos (isHarmless_some.2 (.inr phrase))]

end Words

theorem words_space (front back : List Char) :
    words (front ++ ' ' :: back) = words front ++ words back := by
  have barrier : Text.IsBarrier ' ' := ⟨by decide, by decide⟩
  have dropped : Text.isAlphanumeric ' ' = false := by decide
  have space : Text.lowerChar ' ' = [' '] := by decide
  rw [words, Text.lower_barrier barrier, space, List.append_assoc, List.singleton_append,
    Text.runs_apart dropped]
  rfl

section Question

variable {front back : String}

theorem screenQuestion_parts (front back : String) : screenQuestion (front ++ " " ++ back) =
    (screenQuestion front).or (screenWords (words front.toList).getLast? (words back.toList)) := by
  have parts : (front ++ " " ++ back).toList = front.toList ++ ' ' :: back.toList := by simp
  rw [screenQuestion, parts, words_space, screenWords_append, Option.or_none]
  rfl

theorem ReadsAcross.blocks (across : ReadsAcross front back) : screenQuestion back ≠ none := by
  obtain ⟨before, word, _, first, phrase⟩ := across
  obtain ⟨rest, shape⟩ := List.head?_eq_some_iff.1 first
  rw [screenQuestion, shape]
  exact phrase.blocks

theorem screenWords_across (across : ReadsAcross front back) :
    screenWords (words front.toList).getLast? (words back.toList) = screenExempt back := by
  obtain ⟨before, word, last, first, phrase⟩ := across
  obtain ⟨rest, shape⟩ := List.head?_eq_some_iff.1 first
  rw [screenExempt, last, shape]
  exact screenWords_exempt phrase

theorem screenWords_alone (apart : ¬ ReadsAcross front back) :
    screenWords (words front.toList).getLast? (words back.toList) = screenQuestion back := by
  rw [screenQuestion]
  cases last : (words front.toList).getLast? with
  | none => rfl
  | some before =>
    cases shape : words back.toList with
    | nil => rfl
    | cons word rest =>
      exact screenWords_apart fun phrase => apart ⟨before, word, last, by rw [shape]; rfl, phrase⟩

end Question

/-- What is refused stays refused for the same verb with any text after it, two harmless texts are
harmless together, and after a harmless text another is refused as it is alone, unless its first word
and the last one before it only ask: then the rest of it decides. -/
theorem screenQuestion_joined (front back : String) :
    (∀ blocked, screenQuestion front = some blocked →
      screenQuestion (front ++ " " ++ back) = some blocked) ∧
    (screenQuestion front = none → screenQuestion back = none →
      screenQuestion (front ++ " " ++ back) = none) ∧
    (screenQuestion front = none → ∀ blocked, screenQuestion back = some blocked →
      (¬ ReadsAcross front back → screenQuestion (front ++ " " ++ back) = some blocked) ∧
      (ReadsAcross front back → screenQuestion (front ++ " " ++ back) = screenExempt back)) := by
  rw [screenQuestion_parts]
  refine ⟨fun blocked refused => by rw [refused]; rfl, fun passed passedToo => ?_,
    fun passed blocked refused => ⟨fun apart => ?_, fun across => ?_⟩⟩
  · have apart : ¬ ReadsAcross front back := fun across => across.blocks passedToo
    rw [passed, screenWords_alone apart, passedToo]
    rfl
  · rw [passed, screenWords_alone apart, refused]
    rfl
  · rw [passed, screenWords_across across]
    rfl

/-- Only the word before it makes `updated` harmless here. -/
theorem screenQuestion_joined_recently :
    screenQuestion "Orders RECENTLY" = none ∧ screenQuestion "updated, by whom?" = some ⟨"update"⟩ ∧
      ReadsAcross "Orders RECENTLY" "updated, by whom?" ∧
      screenQuestion ("Orders RECENTLY" ++ " " ++ "updated, by whom?") = none := by
  have passed : screenQuestion "Orders RECENTLY" = none := by decide +kernel
  have refused : screenQuestion "updated, by whom?" = some ⟨"update"⟩ := by decide +kernel
  have across : ReadsAcross "Orders RECENTLY" "updated, by whom?" :=
    ⟨"recently".toList, "updated".toList, by decide +kernel, by decide +kernel, .inr rfl, .inl rfl⟩
  have exempt : screenExempt "updated, by whom?" = none := by decide +kernel
  have joined := (screenQuestion_joined "Orders RECENTLY" "updated, by whom?").2.2 passed _ refused
  exact ⟨passed, refused, across, (joined.2 across).trans exempt⟩

end Inquiry.Gate
