import Inquiry.Proofs.Json.Grammar
import Inquiry.Proofs.Json.Run
import Inquiry.Proofs.Text.Cut

/-! What the reader does with strings and numbers as they are written down. -/
namespace Inquiry.Json

def inText (part : TextPart) (seen : List Char) (state : State) : Reader :=
  ⟨some (.text part seen), state⟩

section Texts

variable {limits : Limits} {state : State} {seen : List Char} {c : Char}

theorem step_text {part next : TextPart} {more : List Char}
    (goesOn : part ≠ .plain ∨ c ≠ '"')
    (stepped : textStep part seen c = .ok (.text next more)) :
    (inText part seen state).step limits c = .ok (inText next more state) := by
  have literal : Literal.step (.text part seen) c = .ok (.goesOn (.text next more)) := by
    rw [Literal.step, stepped]
    · rfl
    · rintro rfl rfl
      simp at goesOn
  simp only [inText, Reader.step, literal]
  rfl

theorem step_plain (visible : 0x20 ≤ c.toNat) (inside : c ≠ '"') (unescaped : c ≠ '\\') :
    (inText .plain seen state).step limits c = .ok (inText .plain (c :: seen) state) := by
  apply step_text (.inr inside)
  simp [textStep, unescaped, Nat.not_lt.2 visible]

theorem step_backslash :
    (inText .plain seen state).step limits '\\' = .ok (inText .escape seen state) := by
  apply step_text (.inr (by decide))
  rfl

theorem step_letter {letter : Char} (listed : (letter, c) ∈ escapeLetters) :
    (inText .escape seen state).step limits letter = .ok (inText .plain (c :: seen) state) := by
  apply step_text (.inl (by simp))
  simp only [escapeLetters, List.mem_cons, List.not_mem_nil, or_false, Prod.mk.injEq] at listed
  rcases listed with ⟨rfl, rfl⟩ | ⟨rfl, rfl⟩ | ⟨rfl, rfl⟩ | ⟨rfl, rfl⟩ | ⟨rfl, rfl⟩ | ⟨rfl, rfl⟩ |
    ⟨rfl, rfl⟩ | ⟨rfl, rfl⟩ <;> rfl

theorem hexValue_size {digit : Nat} (read : hexValue? c = some digit) : c.utf8Size = 1 := by
  have small : c.toNat < 0x80 := by
    unfold hexValue? at read
    split at read
    next isDigit =>
      simp only [Char.isDigit, Bool.and_eq_true, decide_eq_true_eq] at isDigit
      have bound : c.val.toNat ≤ 57 := isDigit.2
      exact Nat.lt_of_le_of_lt bound (by decide)
    next =>
      split at read
      next small =>
        simp only [Bool.and_eq_true, decide_eq_true_eq] at small
        have bound : c.val.toNat ≤ 102 := small.2
        exact Nat.lt_of_le_of_lt bound (by decide)
      next =>
        split at read
        next large =>
          simp only [Bool.and_eq_true, decide_eq_true_eq] at large
          have bound : c.val.toNat ≤ 70 := large.2
          exact Nat.lt_of_le_of_lt bound (by decide)
        next => cases read
  have bound : c.val ≤ 127 := by
    rw [UInt32.le_iff_toNat_le]
    exact Nat.le_of_lt_succ small
  simp [Char.utf8Size, bound]

theorem after_unit {high : Option Nat} {digits more : List Char} {unit : Nat} {part : TextPart}
    (read : IsUnit digits unit) (taken : takeUnit seen high unit = .ok (.text part more)) :
    Reader.after limits (inText (.unit high (some 0) 0) seen state) digits =
      .ok (inText part more state) := by
  obtain ⟨a, b, c, d, rfl, w, x, y, z, first, second, third, fourth, rfl⟩ := read
  have step {value : Nat} {bytes : Nat} {digit : Char} {n : Nat} (short : bytes + 1 < 4)
      (meant : hexValue? digit = some n) :
      (inText (.unit high (some value) bytes) seen state).step limits digit =
        .ok (inText (.unit high (some (16 * value + n)) (bytes + 1)) seen state) := by
    apply step_text (.inl (by simp))
    simp [textStep, unitStep, meant, hexValue_size meant, short]
  have last : (inText (.unit high (some (16 * (16 * w + x) + y)) 3) seen state).step limits d =
      .ok (inText part more state) := by
    apply step_text (.inl (by simp))
    simp [textStep, unitStep, fourth, hexValue_size fourth, taken]
  rw [Reader.after_cons (step (by decide) first), Reader.after_cons (step (by decide) second),
    Reader.after_cons (step (by decide) third)]
  simp only [Nat.mul_zero, Nat.zero_add]
  rw [Reader.after_cons last]
  rfl

/-- No character is half of a pair. -/
theorem whole_unit (c : Char) : isHighHalf c.toNat = false ∧ isLowHalf c.toNat = false := by
  have valid := c.valid
  simp only [isHighHalf, isLowHalf, Bool.and_eq_false_iff, decide_eq_false_iff_not]
  have bounds : c.toNat < 0xd800 ∨ 0xdfff < c.toNat ∧ c.toNat < 0x110000 := valid
  omega

theorem takeUnit_char (c : Char) : takeUnit seen none c.toNat = .ok (.text .plain (c :: seen)) := by
  simp [takeUnit, whole_unit c, Char.ofNat_toNat]

theorem takeUnit_high {offset : Nat} (bound : offset < 0x100000) :
    takeUnit seen none (0xd800 + offset / 0x400) =
      .ok (.text (.lowHalf (0xd800 + offset / 0x400)) seen) := by
  have high : isHighHalf (0xd800 + offset / 0x400) = true := by
    simp only [isHighHalf, Bool.and_eq_true, decide_eq_true_eq]
    omega
  simp [takeUnit, high]

theorem takeUnit_pair (wide : 0x10000 ≤ c.toNat) :
    takeUnit seen (some (0xd800 + (c.toNat - 0x10000) / 0x400))
        (0xdc00 + (c.toNat - 0x10000) % 0x400) = .ok (.text .plain (c :: seen)) := by
  have low : isLowHalf (0xdc00 + (c.toNat - 0x10000) % 0x400) = true := by
    simp only [isLowHalf, Bool.and_eq_true, decide_eq_true_eq]
    omega
  have point : 0x10000 + (0xd800 + (c.toNat - 0x10000) / 0x400 - 0xd800) * 0x400 +
      (0xdc00 + (c.toNat - 0x10000) % 0x400 - 0xdc00) = c.toNat := by omega
  simp only [takeUnit, low, if_true, point, Char.ofNat_toNat]

theorem char_offset (c : Char) : c.toNat - 0x10000 < 0x100000 := by
  have valid := c.valid
  have bounds : c.toNat < 0xd800 ∨ 0xdfff < c.toNat ∧ c.toNat < 0x110000 := valid
  omega

theorem after_spelt {content body : List Char} (spelt : Spells '"' content body) :
    Reader.after limits (inText .plain seen state) body =
      .ok (inText .plain (content.reverse ++ seen) state) := by
  induction spelt generalizing seen with
  | nil => rfl
  | plain visible inside unescaped rest ih =>
    rw [Reader.after_cons (step_plain visible inside unescaped), ih]
    simp
  | escape listed rest ih =>
    rw [Reader.after_cons step_backslash, Reader.after_cons (step_letter listed), ih]
    simp
  | apostrophe single => exact absurd single (by decide)
  | @unit c digits text body meant rest ih =>
    have opened : (inText .escape seen state).step limits 'u' =
        .ok (inText (.unit none (some 0) 0) seen state) := step_text (.inl (by simp)) rfl
    rw [Reader.after_cons step_backslash, Reader.after_cons opened,
      Reader.after_append (after_unit meant (takeUnit_char c))]
    exact ih.trans (by simp)
  | @pair c high low text body wide upper lower rest ih =>
    have opened : (inText .escape seen state).step limits 'u' =
        .ok (inText (.unit none (some 0) 0) seen state) := step_text (.inl (by simp)) rfl
    have between {first : Nat} : (inText (.lowHalf first) seen state).step limits '\\' =
        .ok (inText (.lowHalfMark first) seen state) := step_text (.inl (by simp)) rfl
    have again {first : Nat} : (inText (.lowHalfMark first) seen state).step limits 'u' =
        .ok (inText (.unit (some first) (some 0) 0) seen state) := step_text (.inl (by simp)) rfl
    rw [Reader.after_cons step_backslash, Reader.after_cons opened,
      Reader.after_append (after_unit upper (takeUnit_high (char_offset c))),
      Reader.after_cons between, Reader.after_cons again,
      Reader.after_append (after_unit lower (takeUnit_pair wide))]
    exact ih.trans (by simp)

end Texts

def inNumber (part : NumberPart) (seen : List Char) (state : State) : Reader :=
  ⟨some (.number part seen), state⟩

section Numbers

variable {limits : Limits} {state : State} {part next : NumberPart} {seen : List Char} {c : Char}

theorem step_number (continues : part.next? c = some next) :
    (inNumber part seen state).step limits c = .ok (inNumber next (c :: seen) state) := by
  simp only [inNumber, Reader.step, Literal.step, numberStep, continues]
  rfl

theorem after_digits (enters : ∀ digit : Char, digit.isDigit = true → part.next? digit = some next)
    (loops : ∀ digit : Char, digit.isDigit = true → next.next? digit = some next)
    {digits : List Char} (numeral : Decimal.isNumeral digits = true) :
    Reader.after limits (inNumber part seen state) digits =
      .ok (inNumber next (digits.reverse ++ seen) state) := by
  have loop (more : List Char) (seen : List Char) (all : ∀ digit ∈ more, digit.isDigit = true) :
      Reader.after limits (inNumber next seen state) more =
        .ok (inNumber next (more.reverse ++ seen) state) := by
    induction more generalizing seen with
    | nil => rfl
    | cons digit rest ih =>
      rw [Reader.after_cons (step_number (loops digit (all digit List.mem_cons_self)))]
      rw [ih _ fun d member => all d (List.mem_cons_of_mem _ member)]
      simp
  cases digits with
  | nil => simp [Decimal.isNumeral] at numeral
  | cons first rest =>
    simp only [Decimal.isNumeral, List.isEmpty_cons, Bool.not_false, Bool.true_and,
      List.all_eq_true] at numeral
    rw [Reader.after_cons (step_number (enters first (numeral first List.mem_cons_self)))]
    rw [loop _ _ fun d member => numeral d (List.mem_cons_of_mem _ member)]
    simp

theorem after_whole (limits : Limits) (state : State) {whole : List Char} (isWhole : IsWhole whole) :
    ∃ first rest next, whole = first :: rest ∧ NumberPart.next? .sign first = some next ∧
      (next = .zero ∨ next = .whole) ∧ ∀ seen, Reader.after limits (inNumber next seen state) rest =
        .ok (inNumber next (rest.reverse ++ seen) state) := by
  obtain ⟨numeral, short⟩ := isWhole
  cases whole with
  | nil => simp [Decimal.isNumeral] at numeral
  | cons first rest =>
    have digit : first.isDigit = true ∧ ∀ d ∈ rest, d.isDigit = true := by
      simpa [Decimal.isNumeral] using numeral
    by_cases zero : first = '0'
    · subst zero
      have alone : rest = [] := by simpa using short
      subst alone
      exact ⟨_, [], .zero, rfl, rfl, .inl rfl, fun seen => rfl⟩
    · refine ⟨first, rest, .whole, rfl, by simp [NumberPart.next?, zero, digit.1], .inr rfl, ?_⟩
      intro seen
      cases rest with
      | nil => rfl
      | cons second more =>
        have loops (d : Char) (isDigit : d.isDigit = true) :
            NumberPart.next? .whole d = some .whole := by simp [NumberPart.next?, isDigit]
        exact after_digits loops loops (by simpa [Decimal.isNumeral] using digit.2)

theorem after_fraction (limits : Limits) (state : State) (seen : List Char) {text : List Char}
    (whole : part = .zero ∨ part = .whole) (fraction : IsFraction text) :
    ∃ next, (next = .zero ∨ next = .whole ∨ next = .fraction) ∧
      Reader.after limits (inNumber part seen state) text =
        .ok (inNumber next (text.reverse ++ seen) state) := by
  rcases fraction with rfl | ⟨digits, rfl, numeral⟩
  · exact ⟨part, whole.imp_right .inl, rfl⟩
  · have point : part.next? '.' = some .point := by rcases whole with rfl | rfl <;> rfl
    have digit (loop : NumberPart) (isLoop : loop = .point ∨ loop = .fraction) (d : Char)
        (isDigit : d.isDigit = true) : loop.next? d = some .fraction := by
      rcases isLoop with rfl | rfl <;> simp [NumberPart.next?, isDigit]
    refine ⟨.fraction, .inr (.inr rfl), ?_⟩
    rw [Reader.after_cons (step_number point),
      after_digits (digit .point (.inl rfl)) (digit .fraction (.inr rfl)) numeral]
    simp

theorem after_exponent (limits : Limits) (state : State) (seen : List Char) {text : List Char}
    (body : part = .zero ∨ part = .whole ∨ part = .fraction) (exponent : IsExponent text) :
    ∃ next : NumberPart, next.isLast = true ∧
      Reader.after limits (inNumber part seen state) text =
        .ok (inNumber next (text.reverse ++ seen) state) := by
  rcases exponent with rfl | ⟨mark, sign, digits, rfl, marked, signed, numeral⟩
  · exact ⟨part, by rcases body with rfl | rfl | rfl <;> rfl, rfl⟩
  · have begun : part.next? mark = some .mark := by
      rcases body with rfl | rfl | rfl <;> rcases marked with rfl | rfl <;> rfl
    have digit (before : NumberPart)
        (isBefore : before = .mark ∨ before = .markSign ∨ before = .exponent) (d : Char)
        (isDigit : d.isDigit = true) : before.next? d = some .exponent := by
      have unsigned : d ≠ '+' ∧ d ≠ '-' := by
        constructor <;> (rintro rfl; simp [Char.isDigit] at isDigit)
      rcases isBefore with rfl | rfl | rfl <;> simp [NumberPart.next?, isDigit, unsigned]
    refine ⟨.exponent, rfl, ?_⟩
    rw [Reader.after_cons (step_number begun)]
    have loops := digit .exponent (.inr (.inr rfl))
    rcases signed with rfl | rfl | rfl
    · rw [List.nil_append, after_digits (digit .mark (.inl rfl)) loops numeral]
      simp
    all_goals
      rw [List.cons_append, List.nil_append,
        Reader.after_cons (step_number (show NumberPart.next? .mark _ = some .markSign from rfl)),
        after_digits (digit .markSign (.inr (.inl rfl))) loops numeral]
      simp

theorem step_begin {orClose : Bool} {stack : List Frame}
    (begun : c = '-' ∧ part = .sign ∨ NumberPart.next? .sign c = some part) :
    Reader.step limits ⟨none, .value orClose stack⟩ c =
      .ok (inNumber part [c] (.value orClose stack)) := by
  have literal : Literal.ofChar? c = some (.number part [c]) := by
    rcases begun with ⟨rfl, rfl⟩ | continues
    · rfl
    · have digit : c.isDigit = true := by
        simp only [NumberPart.next?] at continues
        split at continues
        next zero => rw [beq_iff_eq.1 zero]; rfl
        next =>
          split at continues
          next digit => exact digit
          next => cases continues
      have plain : c ≠ '"' ∧ c ≠ 'n' ∧ c ≠ 't' ∧ c ≠ 'f' := by
        refine ⟨?_, ?_, ?_, ?_⟩ <;> (rintro rfl; simp [Char.isDigit] at digit)
      simp [Literal.ofChar?, plain, continues]
  have outside : isBlank c = false ∧ c ≠ '[' ∧ c ≠ '\x7b' ∧ c ≠ ']' := by
    refine ⟨?_, ?_, ?_, ?_⟩
    · cases blank : isBlank c with
      | false => rfl
      | true =>
        rcases blank_iff.1 blank with rfl | rfl | rfl | rfl <;>
          simp [Literal.ofChar?, NumberPart.next?, Char.isDigit] at literal
    all_goals
      rintro rfl
      simp [Literal.ofChar?, NumberPart.next?, Char.isDigit] at literal
  simp [Reader.step, State.step, beginValue, beginLiteral, outside, literal, inNumber]

/-- A number literal is gathered up to a place where it can end. -/
theorem after_number {literal : List Char} {orClose : Bool} {stack : List Frame}
    (number : IsNumber literal) :
    ∃ part : NumberPart, part.isLast = true ∧
      Reader.after limits ⟨none, .value orClose stack⟩ literal =
        .ok (inNumber part literal.reverse (.value orClose stack)) := by
  obtain ⟨sign, whole, fraction, exponent, rfl, signed, isWhole, isFraction, isExponent⟩ := number
  obtain ⟨first, rest, part, rfl, entered, body, more⟩ :=
    after_whole limits (.value orClose stack) isWhole
  have digits : ∃ seen, seen = (sign ++ first :: rest).reverse ∧
      Reader.after limits ⟨none, .value orClose stack⟩ (sign ++ first :: rest) =
        .ok (inNumber part seen (.value orClose stack)) := by
    refine ⟨_, rfl, ?_⟩
    rcases signed with rfl | rfl
    · rw [List.nil_append, Reader.after_cons (step_begin (.inr entered)), more]
      simp
    · rw [List.cons_append, List.nil_append, Reader.after_cons (step_begin (.inl ⟨rfl, rfl⟩)),
        Reader.after_cons (step_number entered), more]
      simp
  obtain ⟨seen, seen_eq, begun⟩ := digits
  obtain ⟨middle, isMiddle, fractioned⟩ :=
    after_fraction limits (.value orClose stack) seen body isFraction
  obtain ⟨last, isLast, finished⟩ :=
    after_exponent limits (.value orClose stack) (fraction.reverse ++ seen) isMiddle isExponent
  refine ⟨last, isLast, ?_⟩
  rw [List.append_assoc, Reader.after_append begun, Reader.after_append fractioned, finished]
  simp [seen_eq]

theorem numeral_digit {digits : List Char} (numeral : Decimal.isNumeral digits = true) :
    digits ≠ [] ∧ ∀ digit ∈ digits, digit.isDigit = true := by
  simpa [Decimal.isNumeral] using numeral

theorem exponentOf_some {text : List Char} (exponent : IsExponent text) :
    ∃ value, Decimal.exponentOf? text = some value := by
  rcases exponent with rfl | ⟨mark, sign, digits, rfl, marked, signed, numeral⟩
  · exact ⟨0, rfl⟩
  · have read : ∃ value, Decimal.intOf? (sign ++ digits) = some value := by
      have natural : Decimal.natOf? digits = some (Decimal.valueOf digits) := by
        simp [Decimal.natOf?, numeral]
      rcases signed with rfl | rfl | rfl
      · have unsigned := numeral_digit numeral
        cases digits with
        | nil => exact absurd rfl unsigned.1
        | cons first rest =>
          have digit := unsigned.2 first List.mem_cons_self
          rw [List.nil_append, Decimal.intOf?, natural]
          · exact ⟨_, rfl⟩
          all_goals
            intro _ same
            rw [(List.cons.inj same).1] at digit
            simp [Char.isDigit] at digit
      · exact ⟨_, by rw [List.cons_append, List.nil_append, Decimal.intOf?, natural]; rfl⟩
      · exact ⟨_, by rw [List.cons_append, List.nil_append, Decimal.intOf?, natural]; rfl⟩
    obtain ⟨value, read⟩ := read
    exact ⟨value, by rcases marked with rfl | rfl <;> simpa [Decimal.exponentOf?] using read⟩

theorem ofMagnitude_some (negative : Bool) (whole fraction : List Char) {tail : List Char}
    (exponent : IsExponent tail) :
    ∃ number, Number.ofMagnitude negative whole fraction tail = some number := by
  obtain ⟨value, read⟩ := exponentOf_some exponent
  simp only [Number.ofMagnitude, read, bind, Option.bind, pure]
  repeat' split
  all_goals exact ⟨_, rfl⟩

theorem unsigned_number {sign whole rest : List Char} (signed : IsSign sign)
    (isWhole : IsWhole whole) :
    (if (sign ++ whole ++ rest).head? = some '-' then (sign ++ whole ++ rest).drop 1
      else sign ++ whole ++ rest) = whole ++ rest := by
  obtain ⟨nonempty, digit⟩ := numeral_digit isWhole.1
  obtain ⟨first, more, rfl⟩ := List.exists_cons_of_ne_nil nonempty
  have other : first ≠ '-' := by
    rintro rfl
    have sign := digit '-' List.mem_cons_self
    simp [Char.isDigit] at sign
  rcases signed with rfl | rfl <;> simp [other]

theorem mantissa_number {whole fraction exponent : List Char} (isWhole : IsWhole whole)
    (isFraction : IsFraction fraction) (isExponent : IsExponent exponent) :
    (whole ++ fraction ++ exponent).takeWhile (fun c => decide (c ≠ 'e') && decide (c ≠ 'E')) =
        whole ++ fraction ∧
      (whole ++ fraction ++ exponent).dropWhile (fun c => decide (c ≠ 'e') && decide (c ≠ 'E')) =
        exponent := by
  have plain : ∀ c ∈ whole ++ fraction, c.isDigit = true ∨ c = '.' := by
    intro c member
    rcases List.mem_append.1 member with inWhole | inFraction
    · exact .inl ((numeral_digit isWhole.1).2 c inWhole)
    · rcases isFraction with rfl | ⟨digits, rfl, numeral⟩
      · cases inFraction
      · rcases List.mem_cons.1 inFraction with point | inDigits
        · exact .inr point
        · exact .inl ((numeral_digit numeral).2 c inDigits)
  refine Text.span_append _ _ _ (fun c member => ?_) (fun c first => ?_)
  · rcases plain c member with digit | rfl
    · have other : c ≠ 'e' ∧ c ≠ 'E' := by
        constructor <;> (rintro rfl; simp [Char.isDigit] at digit)
      simp [other]
    · decide
  · rcases isExponent with rfl | ⟨mark, sign, digits, rfl, marked, _, _⟩
    · cases first
    · cases first
      rcases marked with rfl | rfl <;> decide

theorem whole_number {whole fraction : List Char} (isWhole : IsWhole whole)
    (isFraction : IsFraction fraction) :
    (whole ++ fraction).takeWhile (fun c => decide (c ≠ '.')) = whole ∧
      (whole ++ fraction).dropWhile (fun c => decide (c ≠ '.')) = fraction := by
  refine Text.span_append _ _ _ (fun c member => ?_) (fun c first => ?_)
  · have digit := (numeral_digit isWhole.1).2 c member
    have other : c ≠ '.' := by
      rintro rfl
      simp [Char.isDigit] at digit
    simp [other]
  · rcases isFraction with rfl | ⟨digits, rfl, _⟩
    · cases first
    · cases first
      decide

theorem wellFormed_number {whole fraction : List Char} (isWhole : IsWhole whole)
    (isFraction : IsFraction fraction) : wellFormed whole fraction = true := by
  simp only [wellFormed, Bool.and_eq_true, Bool.or_eq_true, decide_eq_true_eq]
  refine ⟨⟨isWhole.1, isWhole.2⟩, ?_⟩
  rcases isFraction with rfl | ⟨digits, rfl, numeral⟩
  · rfl
  · exact numeral

/-- Every number literal has a value, perhaps out of range. -/
theorem ofLiteral_some {literal : List Char} (number : IsNumber literal) :
    ∃ value, Number.ofLiteral? literal = some value := by
  obtain ⟨sign, whole, fraction, exponent, rfl, signed, isWhole, isFraction, isExponent⟩ := number
  have shape : sign ++ whole ++ fraction ++ exponent = sign ++ whole ++ (fraction ++ exponent) := by
    simp
  rw [shape]
  unfold Number.ofLiteral?
  simp only [unsigned_number signed isWhole]
  rw [← List.append_assoc]
  simp only [mantissa_number isWhole isFraction isExponent, whole_number isWhole isFraction,
    wellFormed_number isWhole isFraction, if_true]
  exact ofMagnitude_some _ whole fraction isExponent

end Numbers

end Inquiry.Json
