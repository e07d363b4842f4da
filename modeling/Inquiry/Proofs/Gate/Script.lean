import Inquiry.Gate.Script
import Inquiry.Proofs.Text.Cut
import Inquiry.Proofs.Text.Property
import Mathlib

/-!
The script gate refuses exactly the texts in which a write method is called, in any spelling of its
letters and with any white space around its name.
-/
namespace Inquiry.Gate

/-- `c` is the letter in one of its cases; beyond ASCII, the Kelvin sign and the long s are such. -/
def IsCaseOf (letter c : Char) : Prop :=
  c = letter.toLower ∨ c = letter.toUpper ∨ letter.toLower = 'k' ∧ c = '\u212a' ∨
    letter.toLower = 's' ∧ c = 'ſ'

def Spells (name written : List Char) : Prop := List.Forall₂ IsCaseOf name written

structure BeginsCall (method : String) (written text : List Char) : Prop where
  listed : method ∈ writeMethods
  spelt : Spells method.toList written
  opened : ∃ gap blank rest, Text.IsWhite gap ∧ Text.IsWhite blank ∧
    text = gap ++ written ++ blank ++ '(' :: rest

def HasCall (text : List Char) : Prop :=
  ∃ rest, '.' :: rest <:+ text ∧ ∃ method written, BeginsCall method written rest

def reportedName (method : String) (written : List Char) : String :=
  if written.all Text.isAscii then method else String.ofList written

section Letters

variable {letter c : Char} {name written : List Char}

theorem toLower_iff : c.toLower = letter.toLower ↔ c = letter.toLower ∨ c = letter.toUpper := by
  constructor
  · intro same
    by_cases upper : c.isUpper
    · refine .inr ?_
      rw [← Char.toUpper_toLower_eq_toUpper, ← same, Char.toUpper_toLower_eq_toUpper,
        Char.toUpper_eq_of_not_isLower (Char.not_isLower_of_isUpper upper)]
    · exact .inl (same ▸ (Char.toLower_eq_of_not_isUpper upper).symm)
  · rintro (rfl | rfl)
    · exact Char.toLower_toLower_eq_toLower letter
    · exact Char.toLower_toUpper_eq_toLower letter

theorem alpha_ascii (alpha : c.isAlpha = true) : Text.isAscii c = true := by
  have range := Text.alpha_range alpha
  simp only [Text.isAscii, decide_eq_true_eq]
  omega

theorem folded_alpha (alpha : letter.isAlpha = true) : folded letter = letter.toLower := by
  have ascii := alpha_ascii alpha
  have apart : letter ≠ '\u212a' ∧ letter ≠ 'ſ' := by
    constructor <;> rintro rfl <;> exact absurd ascii (by decide)
  simp [folded, apart]

theorem folded_iff (alpha : letter.isAlpha = true) : folded letter = folded c ↔ IsCaseOf letter c := by
  have ascii : ∀ d, (d = letter.toLower ∨ d = letter.toUpper) → Text.isAscii d = true := by
    rintro d (rfl | rfl)
    · exact alpha_ascii (by rwa [Char.isAlpha_toLower_eq_isAlpha])
    · exact alpha_ascii (by rwa [Char.isAlpha_toUpper_eq_isAlpha])
  rw [folded_alpha alpha, folded, IsCaseOf, ← or_assoc]
  by_cases kelvin : c = '\u212a'
  · subst kelvin
    simp [mt (ascii '\u212a') (by decide)]
  · by_cases long : c = 'ſ'
    · subst long
      simp [mt (ascii 'ſ') (by decide)]
    · simp [kelvin, long, eq_comm (a := letter.toLower), toLower_iff]

theorem IsCaseOf.alphabetic (alpha : letter.isAlpha = true) (isCase : IsCaseOf letter c) :
    Text.isAlphabetic c = true := by
  have ascii {d : Char} (alpha : d.isAlpha = true) : Text.isAlphabetic d = true := by
    rw [Text.isAlphabetic, if_pos (alpha_ascii alpha), alpha]
  rcases isCase with rfl | rfl | ⟨_, rfl⟩ | ⟨_, rfl⟩
  · exact ascii (by rwa [Char.isAlpha_toLower_eq_isAlpha])
  · exact ascii (by rwa [Char.isAlpha_toUpper_eq_isAlpha])
  · decide +kernel
  · decide +kernel

theorem IsCaseOf.toLower (isCase : IsCaseOf letter c) (ascii : Text.isAscii c = true) :
    c.toLower = letter.toLower := by
  rcases isCase with same | same | ⟨_, rfl⟩ | ⟨_, rfl⟩
  · exact toLower_iff.2 (.inl same)
  · exact toLower_iff.2 (.inr same)
  · cases ascii
  · cases ascii

theorem Spells.map_lower {form : Char → Char} (spells : Spells name written)
    (same : ∀ letter ∈ name, ∀ c ∈ written, IsCaseOf letter c → form c = letter.toLower) :
    written.map form = name.map Char.toLower := by
  induction spells with
  | nil => rfl
  | cons isCase _ ih =>
    rw [List.map_cons, List.map_cons, same _ List.mem_cons_self _ List.mem_cons_self isCase,
      ih fun letter place c inside =>
        same letter (List.mem_cons_of_mem _ place) c (List.mem_cons_of_mem _ inside)]

theorem Spells.lower (spells : Spells name written) (ascii : ∀ c ∈ written, Text.isAscii c = true) :
    written.map Char.toLower = name.map Char.toLower :=
  spells.map_lower fun _ _ c inside isCase => isCase.toLower (ascii c inside)

theorem Spells.folded (letters : ∀ c ∈ name, c.isAlpha = true) (spells : Spells name written) :
    written.map folded = name.map Char.toLower := by
  refine spells.map_lower fun letter place c _ isCase => ?_
  have alpha := letters letter place
  rw [← (folded_iff alpha).2 isCase, folded_alpha alpha]

theorem Spells.alphabetic (letters : ∀ c ∈ name, c.isAlpha = true) (spells : Spells name written) :
    ∀ c ∈ written, Text.isAlphabetic c = true := by
  induction spells with
  | nil => exact List.forall_mem_nil _
  | cons isCase _ ih =>
    exact List.forall_mem_cons.2 ⟨isCase.alphabetic (letters _ List.mem_cons_self),
      ih fun c member => letters c (List.mem_cons_of_mem _ member)⟩

theorem afterName_iff {text rest : List Char} (letters : ∀ c ∈ name, c.isAlpha = true) :
    afterName? name text = some rest ↔ ∃ written, Spells name written ∧ text = written ++ rest := by
  induction name generalizing text with
  | nil => simp [afterName?, Spells]
  | cons letter name ih =>
    have alpha := letters letter List.mem_cons_self
    have tail : ∀ c ∈ name, c.isAlpha = true := fun c member => letters c (List.mem_cons_of_mem _ member)
    cases text with
    | nil => simp [afterName?, Spells]
    | cons c text =>
      rw [afterName?]
      split
      case isTrue same =>
        have isCase := (folded_iff alpha).1 same
        rw [ih tail]
        constructor
        · rintro ⟨written, spells, rfl⟩
          exact ⟨c :: written, .cons isCase spells, rfl⟩
        · rintro ⟨_, _ | ⟨_, spells⟩, shape⟩
          obtain ⟨rfl, rfl⟩ := List.cons.inj shape
          exact ⟨_, spells, rfl⟩
      case isFalse other =>
        refine iff_of_false (fun same => by cases same) ?_
        rintro ⟨_, _ | ⟨isCase, _⟩, shape⟩
        obtain ⟨rfl, rfl⟩ := List.cons.inj shape
        exact other ((folded_iff alpha).2 isCase)

end Letters

section Calls

variable {method other : String} {written text rest : List Char} {c : Char} {blocked : Blocked}

theorem opensCall_iff : opensCall text = true ↔
    ∃ blank rest, Text.IsWhite blank ∧ text = blank ++ '(' :: rest := by
  have shape : opensCall text = true ↔ ∃ rest, Text.trimStart text = '(' :: rest := by
    rw [opensCall, Text.startsWith, Option.isSome_iff_exists]
    exact exists_congr fun rest => Text.after_iff
  rw [shape, exists_comm]
  exact exists_congr fun rest => Text.trimStart_iff (by decide)

theorem methods_letters (listed : method ∈ writeMethods) :
    method.toList ≠ [] ∧ ∀ c ∈ method.toList, c.isAlpha = true := by
  have letters : ∀ method ∈ writeMethods, method.toList ≠ [] ∧
      method.toList.all Char.isAlpha = true := by decide
  exact (letters method listed).imp_right List.all_eq_true.1

/-- No two write methods differ in case only. -/
theorem methods_distinct (listed : method ∈ writeMethods) (listedToo : other ∈ writeMethods)
    (same : method.toList.map Char.toLower = other.toList.map Char.toLower) : method = other := by
  have distinct : ∀ method ∈ writeMethods, ∀ other ∈ writeMethods,
      method.toList.map Char.toLower = other.toList.map Char.toLower → method = other := by
    decide
  exact distinct method listed other listedToo same

theorem BeginsCall.trimmed (begins : BeginsCall method written text) :
    ∃ blank rest, Text.IsWhite blank ∧ Text.trimStart text = written ++ (blank ++ '(' :: rest) := by
  obtain ⟨listed, spelt, gap, blank, rest, white, whiteToo, rfl⟩ := begins
  have letters := methods_letters listed
  have nonempty : written ≠ [] := by
    rintro rfl
    exact letters.1 (List.length_eq_zero_iff.1 spelt.length_eq)
  obtain ⟨first, others, rfl⟩ := List.exists_cons_of_ne_nil nonempty
  have visible := Text.alphabetic_dark (spelt.alphabetic letters.2 first List.mem_cons_self)
  refine ⟨blank, rest, whiteToo, ?_⟩
  rw [List.append_assoc, List.append_assoc, Text.trimStart_white white]
  exact Text.trimStart_visible visible

/-- The name of a call is the run of letters behind the blanks. -/
theorem BeginsCall.name (begins : BeginsCall method written text) :
    written = (Text.trimStart text).takeWhile Text.isAlphabetic := by
  obtain ⟨blank, rest, white, shape⟩ := begins.trimmed
  have stops : ∀ c, (blank ++ '(' :: rest).head? = some c → Text.isAlphabetic c = false := by
    cases blank with
    | nil =>
      rintro c same
      cases same
      decide
    | cons space blank =>
      rintro c same
      cases same
      exact Bool.eq_false_iff.2 fun letter =>
        absurd (Text.alphabetic_dark letter) (by simp [white space List.mem_cons_self])
  have letters := begins.spelt.alphabetic (methods_letters begins.listed).2
  rw [shape, (Text.span_append _ _ _ letters stops).1]

theorem BeginsCall.unique {spelt : List Char} (begins : BeginsCall method written text)
    (beginsToo : BeginsCall other spelt text) : method = other ∧ written = spelt := by
  have same : written = spelt := begins.name.trans beginsToo.name.symm
  subst same
  refine ⟨methods_distinct begins.listed beginsToo.listed ?_, rfl⟩
  rw [← begins.spelt.folded (methods_letters begins.listed).2,
    beginsToo.spelt.folded (methods_letters beginsToo.listed).2]

theorem calls_iff (listed : method ∈ writeMethods) :
    calls (Text.trimStart text) method = true ↔ ∃ written, BeginsCall method written text := by
  have read : calls (Text.trimStart text) method = true ↔
      ∃ rest, afterName? method.toList (Text.trimStart text) = some rest ∧ opensCall rest = true := by
    unfold calls
    split
    next rest found => simp [found]
    next unspelt => simp [unspelt]
  rw [read]
  constructor
  · rintro ⟨rest, found, opens⟩
    obtain ⟨written, spelt, shape⟩ := (afterName_iff (methods_letters listed).2).1 found
    obtain ⟨blank, rest, whiteToo, rfl⟩ := opensCall_iff.1 opens
    obtain ⟨gap, white, parts⟩ := Text.trimStart_parts text
    refine ⟨written, listed, spelt, gap, blank, rest, white, whiteToo, ?_⟩
    rw [List.append_assoc, List.append_assoc, ← shape]
    exact parts
  · rintro ⟨written, begins⟩
    obtain ⟨blank, rest, white, shape⟩ := begins.trimmed
    exact ⟨_, (afterName_iff (methods_letters listed).2).2 ⟨written, begins.spelt, shape⟩,
      opensCall_iff.2 ⟨blank, rest, white, rfl⟩⟩

/-- What reads as a write method in small letters is written in ASCII. -/
theorem lower_ascii (listed : method ∈ writeMethods)
    (lower : method.toList.map Char.toLower = written.map Char.toLower) :
    ∀ c ∈ written, Text.isAscii c = true := by
  intro c inside
  have lowered : c.toLower ∈ method.toList.map Char.toLower := lower ▸ List.mem_map_of_mem inside
  obtain ⟨letter, place, same⟩ := List.mem_map.1 lowered
  apply alpha_ascii
  rw [← Char.isAlpha_toLower_eq_isAlpha, ← same, Char.isAlpha_toLower_eq_isAlpha]
  exact (methods_letters listed).2 letter place

theorem spelling_begun (begins : BeginsCall method written text) :
    spelling method (Text.trimStart text) = reportedName method written := by
  obtain ⟨blank, rest, _, shape⟩ := begins.trimmed
  have length : method.length = written.length := begins.spelt.length_eq
  rw [spelling, shape, length, List.take_left, reportedName]
  by_cases ascii : written.all Text.isAscii = true
  · have lower := begins.spelt.lower (List.all_eq_true.1 ascii)
    rw [if_pos ascii]
    split
    next listed found =>
      have same : listed.toList.map Char.toLower = written.map Char.toLower := by
        simpa using List.find?_some found
      exact methods_distinct (List.mem_of_find?_eq_some found) begins.listed (same.trans lower)
    next unlisted =>
      have differs := List.find?_eq_none.1 unlisted method begins.listed
      exact absurd lower.symm (by simpa using differs)
  · have unlisted : (writeMethods.find? fun listed =>
        listed.toList.map Char.toLower = written.map Char.toLower) = none :=
      List.find?_eq_none.2 fun listed member same =>
        ascii (List.all_eq_true.2 (lower_ascii member (of_decide_eq_true same)))
    rw [if_neg ascii, unlisted]

theorem afterDot_some : afterDot? text = some blocked ↔ ∃ method written,
    BeginsCall method written text ∧ blocked = ⟨"." ++ reportedName method written ++ "("⟩ := by
  rw [afterDot?, Option.map_eq_some_iff]
  constructor
  · rintro ⟨method, found, rfl⟩
    have listed := List.mem_of_find?_eq_some found
    obtain ⟨written, begins⟩ := (calls_iff listed).1 (List.find?_some found)
    exact ⟨method, written, begins, by rw [spelling_begun begins]⟩
  · rintro ⟨method, written, begins, rfl⟩
    have called := (calls_iff begins.listed).2 ⟨written, begins⟩
    have known := List.find?_isSome.2 ⟨method, begins.listed, called⟩
    obtain ⟨other, found⟩ := Option.isSome_iff_exists.1 known
    obtain ⟨spelt, beginsToo⟩ := (calls_iff (List.mem_of_find?_eq_some found)).1 (List.find?_some found)
    obtain ⟨rfl, rfl⟩ := begins.unique beginsToo
    exact ⟨method, found, by rw [spelling_begun begins]⟩

theorem afterDot_refuses : afterDot? text ≠ none ↔ ∃ method written, BeginsCall method written text := by
  rw [Option.ne_none_iff_exists']
  constructor
  · rintro ⟨blocked, found⟩
    obtain ⟨method, written, begins, _⟩ := afterDot_some.1 found
    exact ⟨method, written, begins⟩
  · rintro ⟨method, written, begins⟩
    exact ⟨_, afterDot_some.2 ⟨method, written, begins, rfl⟩⟩

theorem screenChars_none : screenChars text = none ↔
    ∀ rest, '.' :: rest <:+ text → afterDot? rest = none := by
  induction text with
  | nil => simp [screenChars]
  | cons c text ih =>
    simp only [List.suffix_cons_iff, List.cons.injEq, screenChars, beq_iff_eq, or_imp, forall_and, ← ih]
    by_cases dot : c = '.'
    · cases here : afterDot? text <;> simp [dot, here]
    · simp [dot, Ne.symm dot]

theorem screenChars_here (refuses : afterDot? text ≠ none) :
    screenChars ('.' :: text) = afterDot? text := by
  obtain ⟨first, found⟩ := Option.ne_none_iff_exists'.1 refuses
  simp [screenChars, found]

theorem screenChars_on (elsewhere : ¬ (c = '.' ∧ afterDot? text ≠ none)) :
    screenChars (c :: text) = screenChars text := by
  by_cases dot : c = '.'
  · have clear : afterDot? text = none := by simpa [dot] using elsewhere
    simp [screenChars, clear]
  · simp [screenChars, dot]

theorem dot_on (elsewhere : ¬ (c = '.' ∧ afterDot? text ≠ none)) (refuses : afterDot? rest ≠ none) :
    '.' :: rest <:+ c :: text ↔ '.' :: rest <:+ text := by
  rw [List.suffix_cons_iff, or_iff_right]
  intro same
  obtain ⟨rfl, rfl⟩ := List.cons.inj same
  exact elsewhere ⟨rfl, refuses⟩

/-- The leftmost dot with a call after it decides. -/
theorem screenChars_some : screenChars text = some blocked ↔ ∃ rest, '.' :: rest <:+ text ∧
    afterDot? rest = some blocked ∧
      ∀ other, '.' :: other <:+ text → afterDot? other ≠ none → other.length ≤ rest.length := by
  induction text with
  | nil => simp [screenChars]
  | cons c text ih =>
    by_cases here : c = '.' ∧ afterDot? text ≠ none
    · obtain ⟨rfl, refuses⟩ := here
      rw [screenChars_here refuses]
      constructor
      · intro found
        exact ⟨text, List.suffix_rfl, found, fun other inside _ => Nat.le_of_succ_le_succ inside.length_le⟩
      · rintro ⟨rest, inside, found, longest⟩
        have long := longest text List.suffix_rfl refuses
        rw [← found, List.cons.inj (inside.eq_of_length_le (Nat.succ_le_succ long)) |>.2]
    · rw [screenChars_on here, ih]
      refine exists_congr fun rest => ?_
      by_cases found : afterDot? rest = some blocked
      · rw [dot_on here (by simp [found])]
        refine and_congr_right' (and_congr_right' (forall_congr' fun other => ?_))
        constructor
        · exact fun longest inside refuses => longest ((dot_on here refuses).1 inside) refuses
        · exact fun longest inside refuses => longest ((dot_on here refuses).2 inside) refuses
      · simp [found]

theorem screenChars_refuses : screenChars text ≠ none ↔ HasCall text := by
  rw [Ne, screenChars_none, HasCall]
  simp only [← afterDot_refuses, not_forall, exists_prop, ne_eq]

theorem BeginsCall.append (begins : BeginsCall method written text) (more : List Char) :
    BeginsCall method written (text ++ more) := by
  obtain ⟨listed, spelt, gap, blank, rest, white, whiteToo, rfl⟩ := begins
  exact ⟨listed, spelt, gap, blank, rest ++ more, white, whiteToo, by simp⟩

theorem HasCall.within (has : HasCall text) (before after : List Char) :
    HasCall (before ++ text ++ after) := by
  obtain ⟨rest, ⟨front, rfl⟩, method, written, begins⟩ := has
  exact ⟨rest ++ after, ⟨before ++ front, by simp⟩, method, written, begins.append after⟩

end Calls

/-- A text is refused exactly when a write method is called in it, and the leftmost dot before such a
call tells what is reported. No text around a refused one makes it pass. -/
theorem screenScript_calls (text : String) :
    (screenScript text ≠ none ↔ HasCall text.toList) ∧
    (∀ blocked, screenScript text = some blocked ↔ ∃ rest method written,
      '.' :: rest <:+ text.toList ∧ BeginsCall method written rest ∧
        (∀ other, '.' :: other <:+ text.toList → (∃ method written, BeginsCall method written other) →
          other.length ≤ rest.length) ∧
        blocked.pattern = "." ++ reportedName method written ++ "(") ∧
    ∀ before after, screenScript text ≠ none → screenScript (before ++ text ++ after) ≠ none := by
  refine ⟨screenChars_refuses, fun blocked => ?_, fun before after refused => ?_⟩
  · rw [screenScript, screenChars_some]
    refine exists_congr fun rest => ?_
    simp only [afterDot_refuses, afterDot_some]
    constructor
    · rintro ⟨inside, ⟨method, written, begins, rfl⟩, longest⟩
      exact ⟨method, written, inside, begins, longest, rfl⟩
    · rintro ⟨method, written, inside, begins, longest, pattern⟩
      exact ⟨inside, ⟨method, written, begins, by rw [← pattern]⟩, longest⟩
  · have has := (screenChars_refuses.1 refused).within before.toList after.toList
    rw [screenScript, String.toList_append, String.toList_append]
    exact screenChars_refuses.2 has

example : screenScript "db.users . dropDatabaſe\n(); db.users.drop()" = some ⟨".dropDatabaſe("⟩ := by
  decide +kernel

end Inquiry.Gate
