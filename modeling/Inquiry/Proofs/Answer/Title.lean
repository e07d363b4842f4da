import Inquiry.Answer.Title
import Inquiry.Proofs.Text.Cut
import Inquiry.Proofs.Text.Property
import Mathlib.Data.List.Chain

/-!
Titles of names: a space stands in a title wherever words of the name part, all else of the name is kept
but for the case of first letters, and a title is its own title.
-/
namespace Inquiry.Answer

def letters (text : List Char) : List Char := text.filter fun c => !isBreak c

def IsHump (c d : Char) : Prop := endsLower c = true ∧ Text.isUppercase d = true

/-- A word of a name ends between the two texts. -/
inductive Parts : List Char → List Char → Prop
  | gap (front back : List Char) {c : Char} (blank : isBreak c = true) : Parts front (c :: back)
  | hump (front back : List Char) {c d : Char} (raised : IsHump c d) : Parts (front ++ [c]) (d :: back)

structure IsWord (word : List Char) : Prop where
  nonempty : word ≠ []
  plain : ∀ c ∈ word, isBreak c = false
  whole : word.IsChain fun c d => ¬ IsHump c d

/-- What has been read of a word, last character first, is one so far; `low` tells of that character. -/
structure IsRead (word : List Char) (low : Bool) : Prop where
  low : ∀ c ∈ word.head?, low = endsLower c
  isWord : word ≠ [] → IsWord word.reverse

structure IsSpaced (written : List Char) : Prop where
  plain : '_' ∉ written
  begun : written.head? ≠ some ' '
  ended : written.getLast? ≠ some ' '
  single : ¬ [' ', ' '] <:+: written

/-- Without its breaks `written` is the text, but for the case of the first letter of each word. -/
structure IsRelettered (text written : List Char) : Prop where
  folded : (letters written).map Char.toLower = text.map Char.toLower
  kept : ∀ before b c after, written = before ++ b :: c :: after → b ≠ ' ' → c ≠ ' ' →
    text[(letters (before ++ [b])).length]? = some c

section Words

variable {front back word run text : List Char} {words : List (List Char)} {low : Bool} {c d : Char}

theorem plain_iff : isBreak c = false ↔ c ≠ '_' ∧ c ≠ ' ' := by
  simp [isBreak]

theorem hump_plain (raised : IsHump c d) : isBreak c = false ∧ isBreak d = false := by
  obtain ⟨low, capital⟩ := raised
  rw [plain_iff, plain_iff]
  constructor
  · constructor <;> rintro rfl <;> cases low
  · constructor <;> rintro rfl <;> cases capital

/-- A character ends the word being read, ends it and starts the next one, or goes on with it. -/
theorem wordsAfter_cons (word : List Char) (low : Bool) (c : Char) (rest : List Char) :
    (isBreak c = true ∧
      wordsAfter word low (c :: rest) = wordsAfter word low [] ++ nameWords rest) ∨
    (isBreak c = false ∧ word ≠ [] ∧ low = true ∧ Text.isUppercase c = true ∧
      wordsAfter word low (c :: rest) = word.reverse :: wordsAfter [c] (endsLower c) rest) ∨
    (isBreak c = false ∧ (word ≠ [] → ¬ (low = true ∧ Text.isUppercase c = true)) ∧
      wordsAfter word low (c :: rest) = wordsAfter (c :: word) (endsLower c) rest) := by
  cases blank : isBreak c with
  | true =>
    refine .inl ⟨rfl, ?_⟩
    cases word <;> simp [wordsAfter, nameWords, blank]
  | false =>
    refine .inr ?_
    rw [wordsAfter, blank]
    cases word <;> cases low <;> cases Text.isUppercase c <;> simp

theorem nameWords_blank (blank : isBreak c = true) (rest : List Char) :
    nameWords (c :: rest) = nameWords rest := by
  simp [nameWords, wordsAfter, blank]

theorem nameWords_plain (plain : isBreak c = false) (rest : List Char) :
    nameWords (c :: rest) = wordsAfter [c] (endsLower c) rest := by
  simp [nameWords, wordsAfter, plain]

theorem wordsAfter_letters (word : List Char) (low : Bool) :
    (wordsAfter word low text).flatten = word.reverse ++ letters text := by
  induction text generalizing word low with
  | nil => cases word <;> simp [wordsAfter, letters]
  | cons c text ih =>
    rcases wordsAfter_cons word low c text with
      ⟨blank, shape⟩ | ⟨plain, _, _, _, shape⟩ | ⟨plain, _, shape⟩
    · rw [shape, List.flatten_append, nameWords, ih]
      cases word <;> simp [wordsAfter, letters, blank]
    · rw [shape, List.flatten_cons, ih]
      simp [letters, plain]
    · rw [shape, ih]
      simp [letters, plain]

theorem nameWords_letters (name : List Char) : (nameWords name).flatten = letters name :=
  wordsAfter_letters [] false

theorem IsWord.single (plain : isBreak c = false) : IsWord [c] :=
  ⟨List.cons_ne_nil c [], List.forall_mem_singleton.2 plain, .singleton c⟩

theorem IsWord.snoc (isWord : IsWord word) (plain : isBreak c = false)
    (level : ∀ d ∈ word.getLast?, ¬ IsHump d c) : IsWord (word ++ [c]) where
  nonempty := by simp
  plain := List.forall_mem_append.2 ⟨isWord.plain, List.forall_mem_singleton.2 plain⟩
  whole := isWord.whole.append (.singleton c) (by simpa using level)

theorem IsRead.nil : IsRead [] false := ⟨nofun, absurd rfl⟩

theorem IsRead.single (plain : isBreak c = false) : IsRead [c] (endsLower c) :=
  ⟨by simp, fun _ => .single plain⟩

theorem IsRead.next (read : IsRead word low) (plain : isBreak c = false)
    (level : word ≠ [] → ¬ (low = true ∧ Text.isUppercase c = true)) :
    IsRead (c :: word) (endsLower c) := by
  cases word with
  | nil => exact .single plain
  | cons d word =>
    have same := read.low d rfl
    have level := level (List.cons_ne_nil d word)
    refine ⟨by simp, fun _ => ?_⟩
    rw [List.reverse_cons]
    refine (read.isWord (List.cons_ne_nil d word)).snoc plain ?_
    simpa [IsHump, ← same] using level

theorem IsRead.ended (read : IsRead word low) : ∀ part ∈ wordsAfter word low [], IsWord part := by
  cases word with
  | nil => simp [wordsAfter]
  | cons c word => simpa [wordsAfter] using read.isWord

theorem wordsAfter_isWord (read : IsRead word low) : ∀ part ∈ wordsAfter word low text, IsWord part := by
  induction text generalizing word low with
  | nil => exact read.ended
  | cons c text ih =>
    rcases wordsAfter_cons word low c text with
      ⟨_, shape⟩ | ⟨plain, begun, _, _, shape⟩ | ⟨plain, level, shape⟩
    · rw [shape]
      exact List.forall_mem_append.2 ⟨read.ended, ih .nil⟩
    · rw [shape]
      exact List.forall_mem_cons.2 ⟨read.isWord begun, ih (.single plain)⟩
    · rw [shape]
      exact ih (read.next plain level)

theorem nameWords_isWord (name : List Char) : ∀ word ∈ nameWords name, IsWord word :=
  wordsAfter_isWord .nil

theorem wordsAfter_whole (begun : ∀ c ∈ word.head?, low = endsLower c)
    (isWord : IsWord (word.reverse ++ run)) : wordsAfter word low run = [word.reverse ++ run] := by
  induction run generalizing word low with
  | nil =>
    have nonempty : word ≠ [] := by simpa using isWord.nonempty
    simp [wordsAfter, nonempty]
  | cons c run ih =>
    have shown := isWord.plain c (by simp)
    rcases wordsAfter_cons word low c run with
      ⟨blank, _⟩ | ⟨_, nonempty, isLow, capital, _⟩ | ⟨_, _, shape⟩
    · rw [shown] at blank
      cases blank
    · obtain ⟨d, word, rfl⟩ := List.exists_cons_of_ne_nil nonempty
      have whole := isWord.whole
      rw [List.reverse_cons, List.append_assoc, List.singleton_append,
        List.isChain_append_cons_cons] at whole
      exact absurd ⟨begun d rfl ▸ isLow, capital⟩ whole.2.1
    · have same : (c :: word).reverse ++ run = word.reverse ++ c :: run := by simp
      rw [shape, ih (by simp) (same ▸ isWord), same]

theorem IsWord.nameWords (isWord : IsWord word) : nameWords word = [word] :=
  wordsAfter_whole nofun isWord

/-- If in any state reading begins anew behind `stop`, it does so whatever stands before `stop`. -/
theorem wordsAfter_anew (front stop : List Char) (anew : ∀ word low,
      wordsAfter word low (stop ++ back) = wordsAfter word low stop ++ nameWords back)
    (word : List Char) (low : Bool) :
    wordsAfter word low (front ++ stop ++ back) = wordsAfter word low (front ++ stop) ++ nameWords back := by
  induction front generalizing word low with
  | nil => exact anew word low
  | cons c front ih =>
    simp only [List.cons_append, wordsAfter, ih]
    split
    · split <;> rfl
    · split <;> rfl

theorem nameWords_parted (parts : Parts front back) :
    nameWords (front ++ back) = nameWords front ++ nameWords back := by
  cases parts with
  | @gap front back c blank =>
    have anew (word : List Char) (low : Bool) :
        wordsAfter word low (c :: back) = wordsAfter word low [] ++ nameWords (c :: back) := by
      rw [nameWords_blank blank]
      cases word <;> simp [wordsAfter, nameWords, blank]
    have apart := wordsAfter_anew front [] anew [] false
    rwa [List.append_nil] at apart
  | @hump front back c d raised =>
    have plain := hump_plain raised
    have anew (word : List Char) (low : Bool) :
        wordsAfter word low (c :: d :: back) = wordsAfter word low [c] ++ nameWords (d :: back) := by
      simp only [nameWords_plain plain.2, wordsAfter, plain.1, plain.2, raised.1, raised.2]
      cases word <;> cases low <;> cases Text.isUppercase c <;> simp
    exact wordsAfter_anew front [c] anew [] false

theorem nameWords_nil_iff : nameWords text = [] ↔ letters text = [] := by
  rw [← nameWords_letters, List.flatten_eq_nil_iff]
  constructor
  · rintro wordless word member
    rw [wordless] at member
    cases member
  · intro empty
    refine List.eq_nil_iff_forall_not_mem.2 fun word member => ?_
    exact (nameWords_isWord text word member).nonempty (empty word member)

theorem nameWords_joined (each : ∀ word ∈ words, IsWord word) :
    nameWords (Text.joined [' '] words) = words := by
  induction words with
  | nil => rfl
  | cons word words ih =>
    obtain ⟨first, others⟩ := List.forall_mem_cons.1 each
    by_cases alone : words = []
    · subst alone
      simpa [Text.joined] using first.nameWords
    · have blank : isBreak ' ' = true := by decide
      rw [Text.joined_cons word alone, nameWords_parted (.gap word _ blank), nameWords_blank blank,
        ih others, first.nameWords, List.singleton_append]

theorem Parts.lead (parts : Parts front back) (before : List Char) : Parts (before ++ front) back := by
  cases parts with
  | gap front back blank => exact .gap _ _ blank
  | hump front back raised =>
    rw [← List.append_assoc]
    exact .hump _ _ raised

theorem Parts.shorten (parts : Parts front (run ++ back)) (nonempty : run ≠ []) : Parts front run := by
  obtain ⟨c, run, rfl⟩ := List.exists_cons_of_ne_nil nonempty
  cases parts with
  | gap _ _ blank => exact .gap _ _ blank
  | hump _ _ raised => exact .hump _ _ raised

/-- Where the first word is not the last one, the name parts behind it. -/
theorem wordsAfter_first {first : List Char} (read : IsRead word low) (further : words ≠ [])
    (shape : wordsAfter word low text = first :: words) :
    ∃ front back, text = front ++ back ∧ Parts (word.reverse ++ front) back ∧
      nameWords (word.reverse ++ front) = [first] ∧ nameWords back = words := by
  induction text generalizing word low with
  | nil => cases word <;> simp_all [wordsAfter]
  | cons c text ih =>
    rcases wordsAfter_cons word low c text with
      ⟨blank, step⟩ | ⟨plain, begun, isLow, capital, step⟩ | ⟨plain, level, step⟩
    · rw [step] at shape
      cases word with
      | nil =>
        -- Breaks before the first word stay with it.
        obtain ⟨front, back, rfl, parts, whole, others⟩ := ih .nil shape
        exact ⟨c :: front, back, rfl, parts.lead [c], (nameWords_blank blank front).trans whole, others⟩
      | cons d word =>
        obtain ⟨rfl, rfl⟩ := List.cons.inj shape
        refine ⟨[], c :: text, rfl, .gap _ _ blank, ?_, nameWords_blank blank text⟩
        rw [List.append_nil, (read.isWord (List.cons_ne_nil d word)).nameWords]
    · rw [step] at shape
      obtain ⟨rfl, rfl⟩ := List.cons.inj shape
      obtain ⟨d, word, rfl⟩ := List.exists_cons_of_ne_nil begun
      have raised : IsHump d c := ⟨read.low d rfl ▸ isLow, capital⟩
      refine ⟨[], c :: text, rfl, ?_, ?_, nameWords_plain plain text⟩
      · rw [List.append_nil, List.reverse_cons]
        exact .hump _ _ raised
      · rw [List.append_nil, (read.isWord begun).nameWords]
    · rw [step] at shape
      obtain ⟨front, back, rfl, parts, whole, others⟩ := ih (read.next plain level) shape
      have same : (c :: word).reverse ++ front = word.reverse ++ c :: front := by simp
      exact ⟨c :: front, back, rfl, same ▸ parts, same ▸ whole, others⟩

theorem nameWords_split {others : List (List Char)} (leading : words ≠ []) (more : others ≠ [])
    (shape : nameWords text = words ++ others) : ∃ front back, text = front ++ back ∧ Parts front back ∧
      nameWords front = words ∧ nameWords back = others := by
  induction words generalizing text with
  | nil => exact absurd rfl leading
  | cons word words ih =>
    obtain ⟨front, back, rfl, parts, whole, rest⟩ := wordsAfter_first .nil (by simp [more]) shape
    rw [List.reverse_nil, List.nil_append] at parts whole
    by_cases alone : words = []
    · subst alone
      exact ⟨front, back, rfl, parts, whole, rest⟩
    · obtain ⟨run, back, rfl, next, same, rest⟩ := ih alone rest
      have begun : run ≠ [] := by
        rintro rfl
        exact alone same.symm
      refine ⟨front ++ run, back, (List.append_assoc _ _ _).symm, next.lead front, ?_, rest⟩
      rw [nameWords_parted (parts.shorten begun), whole, same, List.singleton_append]

theorem title_parted (parts : Parts front back) (before : letters front ≠ [])
    (behind : letters back ≠ []) : title (front ++ back) = title front ++ ' ' :: title back := by
  rw [title, nameWords_parted parts, List.map_append, Text.joined_append, title, title]
  · simpa using mt nameWords_nil_iff.1 before
  · simpa using mt nameWords_nil_iff.1 behind

end Words

section Spacing

variable {word written : List Char} {words : List (List Char)}

theorem letters_append (text other : List Char) : letters (text ++ other) = letters text ++ letters other :=
  List.filter_append text other

theorem letters_space (text : List Char) : letters (' ' :: text) = letters text := rfl

theorem letters_plain (plain : ∀ c ∈ word, isBreak c = false) : letters word = word :=
  List.filter_eq_self.2 fun c member => by simp [plain c member]

theorem IsWord.spaceless (isWord : IsWord word) : ' ' ∉ word :=
  fun member => (plain_iff.1 (isWord.plain _ member)).2 rfl

theorem IsWord.spaced (isWord : IsWord word) : IsSpaced word where
  plain member := (plain_iff.1 (isWord.plain _ member)).1 rfl
  begun first := isWord.spaceless (List.mem_of_head? first)
  ended last := isWord.spaceless (List.mem_of_getLast? last)
  single double := isWord.spaceless (double.subset List.mem_cons_self)

theorem IsWord.join (isWord : IsWord word) (spaced : IsSpaced written) (nonempty : written ≠ []) :
    IsSpaced (word ++ ' ' :: written) where
  plain := by
    simpa using ⟨isWord.spaced.plain, spaced.plain⟩
  begun := by
    obtain ⟨c, rest, rfl⟩ := List.exists_cons_of_ne_nil isWord.nonempty
    exact isWord.spaced.begun
  ended := by
    obtain ⟨c, rest, rfl⟩ := List.exists_cons_of_ne_nil nonempty
    simpa [List.getLast?_append, List.getLast?_cons] using spaced.ended
  single := by
    rintro ⟨before, after, same⟩
    rw [List.append_assoc] at same
    rcases Text.split_middle same with ⟨more, shape⟩ | ⟨more, _, shape⟩
    · exact isWord.spaceless (shape ▸ by simp)
    · cases more with
      | nil => exact spaced.begun ((List.cons.inj shape).2 ▸ rfl)
      | cons d more =>
        refine spaced.single ⟨more, after, ?_⟩
        simpa using (List.cons.inj shape).2.symm

theorem spaced_joined (each : ∀ word ∈ words, IsWord word) : IsSpaced (Text.joined [' '] words) := by
  induction words with
  | nil => exact ⟨by decide, by decide, by decide, by decide⟩
  | cons word words ih =>
    obtain ⟨first, others⟩ := List.forall_mem_cons.1 each
    by_cases alone : words = []
    · subst alone
      simpa [Text.joined] using first.spaced
    · rw [Text.joined_cons word alone]
      refine first.join (ih others) fun empty => alone ?_
      rw [← nameWords_joined others, empty]
      rfl

end Spacing

section Letters

variable {word text other written : List Char} {words : List (List Char)} {c : Char}

theorem IsRelettered.length (same : IsRelettered text written) : (letters written).length = text.length := by
  simpa using congrArg List.length same.folded

theorem IsRelettered.join (first : IsRelettered word other) (rest : IsRelettered text written) :
    IsRelettered (word ++ text) (other ++ ' ' :: written) where
  folded := by
    rw [letters_append, letters_space, List.map_append, List.map_append, first.folded, rest.folded]
  kept := by
    intro before b c after same seen shown
    rcases Text.split_middle same.symm with ⟨more, shape⟩ | ⟨more, rfl, shape⟩
    · rw [shape, List.append_assoc, List.append_cancel_left_eq, List.cons_append, List.cons.injEq] at same
      cases more with
      | nil => exact absurd (List.cons.inj same.2).1.symm shown
      | cons d more =>
        obtain ⟨rfl, _⟩ := List.cons.inj same.2
        have found := first.kept before b d more shape seen shown
        rwa [List.getElem?_append_left (List.getElem?_eq_some_iff.1 found).1]
    · cases more with
      | nil => exact absurd (List.cons.inj shape).1.symm seen
      | cons d more =>
        rw [List.cons_append, List.cons.injEq] at shape
        obtain ⟨rfl, shape⟩ := shape
        have found := rest.kept more b c after shape seen shown
        -- The letters up to `b` are those of the first word and those behind the space.
        have offset : (letters (other ++ ' ' :: more ++ [b])).length =
            word.length + (letters (more ++ [b])).length := by
          rw [List.append_assoc, List.cons_append, letters_append, letters_space, List.length_append,
            first.length]
        rw [offset, List.getElem?_append_right (Nat.le_add_right _ _), Nat.add_sub_cancel_left]
        exact found

theorem capitalized_cons (ascii : Text.isAscii c = true) (rest : List Char) :
    capitalized (c :: rest) = c.toUpper :: rest := by
  rw [capitalized, Text.upperChar, if_pos ascii, List.singleton_append]

theorem capital_ascii (ascii : Text.isAscii c = true) : Text.isAscii c.toUpper = true ∧
    isBreak c.toUpper = isBreak c ∧ (endsLower c.toUpper = true → endsLower c = true) ∧
      c.toUpper.toUpper = c.toUpper ∧ c.toUpper.toLower = c.toLower := by
  have bound : c.toNat < 128 := of_decide_eq_true ascii
  rw [← Char.ofNat_toNat c]
  generalize c.toNat = code at bound
  revert code
  decide +kernel

theorem IsWord.capitalized (isWord : IsWord word) (ascii : ∀ c ∈ word, Text.isAscii c = true) :
    IsWord (capitalized word) := by
  obtain ⟨c, rest, rfl⟩ := List.exists_cons_of_ne_nil isWord.nonempty
  obtain ⟨plain, others⟩ := List.forall_mem_cons.1 isWord.plain
  obtain ⟨level, whole⟩ := List.isChain_cons.1 isWord.whole
  have first := ascii c List.mem_cons_self
  obtain ⟨_, same, low, _⟩ := capital_ascii first
  rw [capitalized_cons first]
  refine ⟨List.cons_ne_nil _ _, List.forall_mem_cons.2 ⟨same ▸ plain, others⟩, ?_⟩
  exact List.isChain_cons.2 ⟨fun d next raised => level d next ⟨low raised.1, raised.2⟩, whole⟩

theorem capitalized_capitalized (ascii : ∀ c ∈ word, Text.isAscii c = true) :
    capitalized (capitalized word) = capitalized word := by
  cases word with
  | nil => rfl
  | cons c rest =>
    have first := ascii c List.mem_cons_self
    obtain ⟨capital, _, _, same, _⟩ := capital_ascii first
    rw [capitalized_cons first, capitalized_cons capital, same]

theorem IsWord.relettered (isWord : IsWord word) (ascii : ∀ c ∈ word, Text.isAscii c = true) :
    IsRelettered word (Answer.capitalized word) := by
  have whole := isWord.capitalized ascii
  obtain ⟨first, rest, rfl⟩ := List.exists_cons_of_ne_nil isWord.nonempty
  have firstAscii := ascii first List.mem_cons_self
  rw [capitalized_cons firstAscii] at whole ⊢
  constructor
  case folded =>
    rw [letters_plain whole.plain, List.map_cons, List.map_cons, (capital_ascii firstAscii).2.2.2.2]
  case kept =>
    intro before b c after same _ _
    have lead : first.toUpper :: rest = before ++ [b] ++ c :: after := by simp [same]
    have plain : ∀ d ∈ before ++ [b], isBreak d = false := fun d member =>
      whole.plain d (lead ▸ List.mem_append_left _ member)
    have place : (first.toUpper :: rest)[before.length + 1]? = some c := by
      rw [same, List.getElem?_append_right (Nat.le_add_right _ _), Nat.add_sub_cancel_left]
      rfl
    rw [letters_plain plain, List.length_append, List.length_singleton]
    exact place

theorem relettered_joined (each : ∀ word ∈ words, IsWord word)
    (ascii : ∀ word ∈ words, ∀ c ∈ word, Text.isAscii c = true) :
    IsRelettered words.flatten (Text.joined [' '] (words.map capitalized)) := by
  induction words with
  | nil => exact ⟨rfl, by simp [Text.joined]⟩
  | cons word words ih =>
    obtain ⟨isWord, others⟩ := List.forall_mem_cons.1 each
    obtain ⟨firstAscii, othersAscii⟩ := List.forall_mem_cons.1 ascii
    have first := isWord.relettered firstAscii
    by_cases alone : words = []
    · subst alone
      simpa [Text.joined] using first
    · rw [List.map_cons, Text.joined_cons _ (by simpa using alone), List.flatten_cons]
      exact first.join (ih others othersAscii)

theorem letters_ascii {name : List Char} (ascii : ∀ c ∈ name, Text.isAscii c = true) :
    ∀ word ∈ nameWords name, ∀ c ∈ word, Text.isAscii c = true := by
  intro word part c member
  have kept : c ∈ letters name := nameWords_letters name ▸ List.mem_flatten_of_mem part member
  exact ascii c (List.mem_of_mem_filter kept)

end Letters

section Titles

variable {name : List Char}

theorem title_isWord (ascii : ∀ c ∈ name, Text.isAscii c = true) :
    ∀ word ∈ (nameWords name).map capitalized, IsWord word := by
  intro word member
  obtain ⟨part, inside, rfl⟩ := List.mem_map.1 member
  exact (nameWords_isWord name part inside).capitalized (letters_ascii ascii part inside)

/-- A space stands in the title exactly where words of the name part. -/
theorem title_space (ascii : ∀ c ∈ name, Text.isAscii c = true) {before after : List Char} :
    title name = before ++ ' ' :: after ↔ ∃ front back, name = front ++ back ∧ Parts front back ∧
      letters front ≠ [] ∧ letters back ≠ [] ∧ title front = before ∧ title back = after := by
  constructor
  · intro same
    obtain ⟨_, _, capitals, early, late, rfl, rfl⟩ :=
      Text.joined_split (fun word member => (title_isWord ascii word member).spaceless) same
    obtain ⟨words, others, shape, rfl, rfl⟩ := List.map_eq_append_iff.1 capitals
    rw [ne_eq, List.map_eq_nil_iff] at early late
    obtain ⟨front, back, rfl, parts, rfl, rfl⟩ := nameWords_split early late shape
    exact ⟨front, back, rfl, parts, mt nameWords_nil_iff.2 early, mt nameWords_nil_iff.2 late, rfl, rfl⟩
  · rintro ⟨front, back, rfl, parts, early, late, rfl, rfl⟩
    exact title_parted parts early late

theorem title_relettered (ascii : ∀ c ∈ name, Text.isAscii c = true) :
    IsRelettered (letters name) (title name) := by
  rw [← nameWords_letters]
  exact relettered_joined (nameWords_isWord name) (letters_ascii ascii)

theorem title_title (ascii : ∀ c ∈ name, Text.isAscii c = true) : title (title name) = title name := by
  have again : ((nameWords name).map capitalized).map capitalized = (nameWords name).map capitalized := by
    rw [List.map_map]
    exact List.map_congr_left fun word part => capitalized_capitalized (letters_ascii ascii word part)
  rw [title, title, nameWords_joined (title_isWord ascii), again]

theorem titleText_toList (key : String) : (titleText key).toList = title key.toList :=
  String.toList_ofList

/-- The title of a name in ASCII has single spaces, just where words of the name part, and keeps all else
of it but for the case of the first letters of words. A title is its own title. -/
theorem titleText_splits (key : String) (ascii : ∀ c ∈ key.toList, Text.isAscii c = true) :
    IsSpaced (titleText key).toList ∧ IsRelettered (letters key.toList) (titleText key).toList ∧
      (∀ before after, (titleText key).toList = before ++ ' ' :: after ↔
        ∃ front back, key.toList = front ++ back ∧ Parts front back ∧ letters front ≠ [] ∧
          letters back ≠ [] ∧ title front = before ∧ title back = after) ∧
      titleText (titleText key) = titleText key := by
  simp only [titleText_toList]
  refine ⟨spaced_joined (title_isWord ascii), title_relettered ascii, fun _ _ => title_space ascii, ?_⟩
  rw [titleText, titleText_toList, title_title ascii]
  rfl

theorem titleText_splits_price :
    (∀ c ∈ "avg__unitPrice2Go_".toList, Text.isAscii c = true) ∧
      titleText "avg__unitPrice2Go_" = "Avg Unit Price2 Go" ∧ IsSpaced "Avg Unit Price2 Go".toList ∧
      IsRelettered "avgunitPrice2Go".toList "Avg Unit Price2 Go".toList ∧
      (∃ front back, "avg__unitPrice2Go_".toList = front ++ back ∧ Parts front back ∧
        title front = "Avg Unit".toList ∧ title back = "Price2 Go".toList) ∧
      titleText "Avg Unit Price2 Go" = "Avg Unit Price2 Go" := by
  have ascii : ∀ c ∈ "avg__unitPrice2Go_".toList, Text.isAscii c = true := Text.all_listed (by decide)
  have written : titleText "avg__unitPrice2Go_" = "Avg Unit Price2 Go" := by
    rw [← String.toList_inj, titleText_toList]
    decide
  obtain ⟨spaced, relettered, parted, again⟩ := titleText_splits "avg__unitPrice2Go_" ascii
  rw [written] at spaced relettered parted again
  obtain ⟨front, back, shape, parts, _, _, before, after⟩ :=
    (parted "Avg Unit".toList "Price2 Go".toList).1 rfl
  exact ⟨ascii, written, spaced, relettered, ⟨front, back, shape, parts, before, after⟩, again⟩

end Titles

end Inquiry.Answer
