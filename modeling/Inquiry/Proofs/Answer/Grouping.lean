import Inquiry.Answer.Rendering
import Inquiry.Proofs.Decimal.Digits
import Inquiry.Proofs.Text.Cut
import Inquiry.Proofs.Text.Property

/-!
Numbers in an answer, with the digits before the point in groups: what is added are commas, every one
of them between two digits and with whole groups of three behind it, and no group is longer.
-/
namespace Inquiry.Answer

structure IsGrouping (text written : List Char) : Prop where
  restored : written.filter (· ≠ ',') = text
  comma : ∀ before after, written = before ++ ',' :: after → '.' ∉ before ∧
    (∃ c, before.getLast? = some c ∧ c.isDigit = true) ∧
      ∃ groups > 0, (after.takeWhile (· ≠ '.')).countP Char.isDigit = 3 * groups
  run : ∀ before run after, written = before ++ run ++ after → '.' ∉ before →
    (∀ c ∈ run, c.isDigit = true) → run.length ≤ 3

section Groups

variable {digits before after run : List Char} {c : Char}

/-- A comma follows a digit exactly where whole groups follow. -/
theorem separated_cons (c : Char) (digits : List Char) :
    (separated (c :: digits) = c :: ',' :: separated digits ∧ digits ≠ [] ∧ digits.length % 3 = 0) ∨
      (separated (c :: digits) = c :: separated digits ∧ (digits = [] ∨ digits.length % 3 ≠ 0)) := by
  cases digits with
  | nil => exact .inr ⟨rfl, .inl rfl⟩
  | cons d digits =>
    rw [separated.eq_3 _ _ (List.cons_ne_nil d digits)]
    split
    next groups => exact .inl ⟨rfl, List.cons_ne_nil _ _, groups⟩
    next other => exact .inr ⟨rfl, .inr other⟩

theorem mem_separated (member : c ∈ separated digits) : c = ',' ∨ c ∈ digits := by
  induction digits with
  | nil => cases member
  | cons d digits ih =>
    rcases separated_cons d digits with ⟨shape, _⟩ | ⟨shape, _⟩ <;> grind

theorem separated_restored (plain : ',' ∉ digits) : (separated digits).filter (· ≠ ',') = digits := by
  induction digits with
  | nil => rfl
  | cons d digits ih =>
    simp only [List.mem_cons, not_or] at plain
    have rest := ih plain.2
    rcases separated_cons d digits with ⟨shape, _⟩ | ⟨shape, _⟩
    · rw [shape, List.filter_cons_of_pos (by simpa using Ne.symm plain.1),
        List.filter_cons_of_neg (by decide), rest]
    · rw [shape, List.filter_cons_of_pos (by simpa using Ne.symm plain.1), rest]

theorem separated_count (plain : ∀ c ∈ digits, c.isDigit = true) :
    (separated digits).countP Char.isDigit = digits.length := by
  induction digits with
  | nil => rfl
  | cons d digits ih =>
    obtain ⟨first, others⟩ := List.forall_mem_cons.1 plain
    have rest := ih others
    rcases separated_cons d digits with ⟨shape, _⟩ | ⟨shape, _⟩
    · rw [shape, List.countP_cons_of_pos first, List.countP_cons_of_neg (by decide), rest,
        List.length_cons]
    · rw [shape, List.countP_cons_of_pos first, rest, List.length_cons]

/-- Behind any part of the separated digits the rest of them is separated in its turn. -/
theorem separated_split (same : separated digits = before ++ after) :
    ∃ rest, rest <:+ digits ∧ (after = separated rest ∨ after = ',' :: separated rest ∧
      rest ≠ [] ∧ rest.length % 3 = 0 ∧ ∃ c ∈ digits, before.getLast? = some c) := by
  induction digits generalizing before with
  | nil =>
    obtain ⟨rfl, rfl⟩ := List.append_eq_nil_iff.1 same.symm
    exact ⟨[], List.suffix_refl _, .inl rfl⟩
  | cons d digits ih =>
    have later {more : List Char} (same : separated digits = more ++ after)
        (last : ∀ c, more.getLast? = some c → before.getLast? = some c) :
        ∃ rest, rest <:+ d :: digits ∧ (after = separated rest ∨ after = ',' :: separated rest ∧
          rest ≠ [] ∧ rest.length % 3 = 0 ∧ ∃ c ∈ d :: digits, before.getLast? = some c) := by
      obtain ⟨rest, suffix, shape⟩ := ih same
      refine ⟨rest, suffix.trans (List.suffix_cons d digits), shape.imp_right ?_⟩
      rintro ⟨shape, remains, groups, c, member, ended⟩
      exact ⟨shape, remains, groups, c, List.mem_cons_of_mem d member, last c ended⟩
    cases before with
    | nil => exact ⟨d :: digits, List.suffix_refl _, .inl same.symm⟩
    | cons b before =>
      rcases separated_cons d digits with ⟨shape, remains, groups⟩ | ⟨shape, _⟩
      · rw [shape, List.cons_append, List.cons.injEq] at same
        obtain ⟨rfl, same⟩ := same
        cases before with
        | nil =>
          exact ⟨digits, List.suffix_cons d digits,
            .inr ⟨same.symm, remains, groups, d, List.mem_cons_self, rfl⟩⟩
        | cons b before =>
          rw [List.cons_append, List.cons.injEq] at same
          refine later same.2 fun c ended => ?_
          rw [List.getLast?_cons, List.getLast?_cons, ended]
          rfl
      · rw [shape, List.cons_append, List.cons.injEq] at same
        refine later same.2 fun c ended => ?_
        rw [List.getLast?_cons, ended]
        rfl

theorem separated_next {d : Char} (same : separated digits = c :: d :: after) (plain : d ≠ ',') :
    ∃ rest, digits = c :: rest ∧ separated rest = d :: after ∧ rest.length % 3 ≠ 0 := by
  cases digits with
  | nil => cases same
  | cons first rest =>
    rcases separated_cons first rest with ⟨shape, _⟩ | ⟨shape, groups⟩
    · rw [shape, List.cons.injEq, List.cons.injEq] at same
      exact absurd same.2.1.symm plain
    · rw [shape, List.cons.injEq] at same
      obtain ⟨rfl, same⟩ := same
      refine ⟨rest, rfl, same, groups.resolve_left ?_⟩
      rintro rfl
      cases same

theorem head_separated (same : separated digits = c :: after) : c ∈ digits := by
  cases digits with
  | nil => cases same
  | cons d digits =>
    rcases separated_cons d digits with ⟨shape, _⟩ | ⟨shape, _⟩ <;>
    · rw [shape] at same
      obtain ⟨rfl, _⟩ := List.cons.inj same
      exact List.mem_cons_self

theorem separated_pointless (plain : ∀ c ∈ digits, c.isDigit = true) : '.' ∉ separated digits := by
  intro member
  rcases mem_separated member with same | member
  · cases same
  · exact absurd (plain _ member) (by decide)

/-- In a group no digit comes fourth. -/
theorem separated_begun (same : separated digits = run ++ after)
    (plain : ∀ c ∈ run, c.isDigit = true) : run.length ≤ 3 := by
  have other {c : Char} (digit : c.isDigit = true) : c ≠ ',' := by
    rintro rfl
    cases digit
  match run, plain with
  | [], _ | [_], _ | [_, _], _ | [_, _, _], _ => simp
  | _ :: second :: third :: fourth :: run, plain =>
    simp only [List.forall_mem_cons] at plain
    obtain ⟨_, isSecond, isThird, isFourth, _⟩ := plain
    obtain ⟨rest, rfl, same, groups⟩ := separated_next same (other isSecond)
    obtain ⟨rest, rfl, same, fewer⟩ := separated_next same (other isThird)
    obtain ⟨rest, rfl, _, fewest⟩ := separated_next same (other isFourth)
    simp only [List.length_cons] at groups fewer
    omega

end Groups

/-- A sign or none, digits, and what may follow them: a point and more digits. -/
inductive IsNumber : List Char → Prop
  | intro {sign digits fraction : List Char} (signed : sign = [] ∨ sign = ['-'])
      (whole : ∀ c ∈ digits, c.isDigit = true)
      (parted : fraction = [] ∨ ∃ places, fraction = '.' :: places ∧ ',' ∉ places) :
      IsNumber (sign ++ digits ++ fraction)

section Numbers

variable {text sign digits fraction before after run : List Char}

theorem digits_apart {c : Char} (other : c.isDigit = false) (whole : ∀ c ∈ digits, c.isDigit = true) :
    c ∉ digits := fun member => by
  rw [whole c member] at other
  cases other

/-- A run of digits before the point does not reach it. -/
theorem run_before {left : List Char} (same : left ++ fraction = before ++ run ++ after)
    (plain : ∀ c ∈ run, c.isDigit = true) (early : '.' ∉ before)
    (parted : fraction = [] ∨ ∃ places, fraction = '.' :: places) :
    ∃ more, left = before ++ run ++ more := by
  rcases List.append_eq_append_iff.1 same with ⟨more, shape, fractionShape⟩ | ⟨more, shape, _⟩
  · rcases more with _ | ⟨c, more⟩
    · exact ⟨[], by simpa using shape.symm⟩
    · rcases parted with rfl | ⟨places, rfl⟩
      · cases fractionShape
      · obtain ⟨rfl, _⟩ := List.cons.inj fractionShape
        have member : '.' ∈ before ++ run := shape ▸ List.mem_append_right _ List.mem_cons_self
        rcases List.mem_append.1 member with member | member
        · exact absurd member early
        · exact absurd (plain _ member) (by decide)
  · exact ⟨more, shape⟩

/-- A run of digits begins behind the sign. -/
theorem run_behind {right : List Char} (same : sign ++ right = before ++ run ++ after)
    (nonempty : run ≠ []) (plain : ∀ c ∈ run, c.isDigit = true) (signed : sign = [] ∨ sign = ['-']) :
    ∃ front, right = front ++ run ++ after := by
  rcases signed with rfl | rfl
  · exact ⟨before, same⟩
  · cases before with
    | nil =>
      obtain ⟨c, run, rfl⟩ := List.exists_cons_of_ne_nil nonempty
      obtain ⟨rfl, _⟩ := List.cons.inj same
      exact absurd (plain '-' List.mem_cons_self) (by decide)
    | cons b before => exact ⟨before, (List.cons.inj same).2⟩

theorem grouping_parts (signed : sign = [] ∨ sign = ['-']) (whole : ∀ c ∈ digits, c.isDigit = true)
    (parted : fraction = [] ∨ ∃ places, fraction = '.' :: places ∧ ',' ∉ places) :
    IsGrouping (sign ++ digits ++ fraction) (sign ++ separated digits ++ fraction) := by
  have signPlain : ',' ∉ sign ∧ '.' ∉ sign := by rcases signed with rfl | rfl <;> decide
  have comma : ',' ∉ digits := digits_apart rfl whole
  have fractionPlain : ',' ∉ fraction := by
    rcases parted with rfl | ⟨places, rfl, plain⟩
    · simp
    · simpa using plain
  have pointed : fraction = [] ∨ ∃ places, fraction = '.' :: places :=
    parted.imp_right fun ⟨places, shape, _⟩ => ⟨places, shape⟩
  have kept {text : List Char} (plain : ',' ∉ text) : text.filter (· ≠ ',') = text :=
    List.filter_eq_self.2 fun c member => decide_eq_true fun same => plain (same ▸ member)
  constructor
  case restored =>
    rw [List.filter_append, List.filter_append, kept signPlain.1, separated_restored comma,
      kept fractionPlain]
  case comma =>
    intro before after same
    obtain ⟨more, left⟩ : ∃ more, sign ++ separated digits = before ++ ',' :: more :=
      (Text.split_middle same.symm).resolve_right fun ⟨_, _, inFraction⟩ =>
        fractionPlain (inFraction ▸ List.mem_append_right _ List.mem_cons_self)
    have rest : after = more ++ fraction := by
      rw [left, List.append_assoc, List.append_cancel_left_eq, List.cons_append] at same
      exact (List.cons.inj same).2.symm
    obtain ⟨front, rfl, right⟩ : ∃ front, before = sign ++ front ∧
        separated digits = front ++ ',' :: more :=
      (Text.split_middle left.symm).resolve_left fun ⟨_, inSign⟩ =>
        signPlain.1 (inSign ▸ List.mem_append_right _ List.mem_cons_self)
    have early : '.' ∉ sign ++ front := fun member =>
      (List.mem_append.1 member).elim signPlain.2 fun member =>
        separated_pointless whole (right ▸ List.mem_append_left _ member)
    obtain ⟨others, suffix, shape | ⟨shape, remains, groups, c, member, last⟩⟩ := separated_split right
    · have digit := whole _ (suffix.subset (head_separated shape.symm))
      cases digit
    obtain ⟨_, rfl⟩ := List.cons.inj shape
    have plain : ∀ c ∈ others, c.isDigit = true := fun c member => whole c (suffix.subset member)
    have figures : after.takeWhile (· ≠ '.') = separated others := by
      rw [rest]
      refine (Text.span_append _ _ _ (fun c member => decide_eq_true ?_) fun c first => ?_).1
      · rintro rfl
        exact separated_pointless plain member
      · rcases pointed with rfl | ⟨places, rfl⟩
        · cases first
        · cases first
          rfl
    refine ⟨early, ⟨c, ?_, whole c member⟩, others.length / 3, ?_, ?_⟩
    · rw [List.getLast?_append, last]
      rfl
    · have := List.length_pos_iff.2 remains
      omega
    · rw [figures, separated_count plain]
      omega
  case run =>
    intro before run after same early plain
    by_cases empty : run = []
    · simp [empty]
    obtain ⟨more, shape⟩ := run_before same plain early pointed
    obtain ⟨front, shape⟩ := run_behind shape empty plain signed
    rw [List.append_assoc] at shape
    obtain ⟨rest, _, shape | ⟨shape, _⟩⟩ := separated_split shape
    · exact separated_begun shape.symm plain
    · obtain ⟨c, run, rfl⟩ := List.exists_cons_of_ne_nil empty
      obtain ⟨rfl, _⟩ := List.cons.inj shape
      exact absurd (plain ',' List.mem_cons_self) (by decide)

theorem grouped_signed (signed : sign = [] ∨ sign = ['-']) (whole : ∀ c ∈ digits, c.isDigit = true) :
    grouped (sign ++ digits) = sign ++ separated digits := by
  rcases signed with rfl | rfl
  · rw [List.nil_append, List.nil_append, grouped.eq_2]
    rintro rest rfl
    exact absurd (whole '-' List.mem_cons_self) (by decide)
  · rfl

theorem IsNumber.grouping (number : IsNumber text) : IsGrouping text (groupedDecimal text) := by
  obtain ⟨signed, whole, parted⟩ := number
  rename_i sign digits fraction
  have pointless : '.' ∉ sign ++ digits := by
    rw [List.mem_append, not_or]
    exact ⟨by rcases signed with rfl | rfl <;> decide, digits_apart rfl whole⟩
  have grouping := grouping_parts signed whole parted
  rcases parted with rfl | ⟨places, rfl, _⟩
  · rw [List.append_nil] at grouping ⊢
    rw [groupedDecimal, Text.splitAt_none pointless, grouped_signed signed whole]
    simpa using grouping
  · rw [groupedDecimal, Text.splitAt_here pointless]
    simpa only [grouped_signed signed whole] using grouping

/-- A text without digits and commas is in groups as it stands. -/
theorem grouping_bare (text : List Char) (bare : ∀ c ∈ text, c ≠ ',' ∧ c.isDigit = false) :
    IsGrouping text text := by
  constructor
  case restored => exact List.filter_eq_self.2 fun c member => decide_eq_true (bare c member).1
  case comma =>
    rintro before after rfl
    exact absurd rfl (bare ',' (List.mem_append_right _ List.mem_cons_self)).1
  case run =>
    rintro before run after rfl _ plain
    cases run with
    | nil => exact Nat.zero_le _
    | cons c run =>
      have other := (bare c (by simp)).2
      rw [plain c List.mem_cons_self] at other
      cases other

theorem ofInt_parts (n : Int) : ∃ sign, (sign = [] ∨ sign = ['-']) ∧
    Decimal.ofInt n = sign ++ Decimal.ofNat n.natAbs := by
  rw [Decimal.ofInt]
  split
  · exact ⟨['-'], .inr rfl, rfl⟩
  · exact ⟨[], .inl rfl, rfl⟩

theorem ofInt_grouping (n : Int) : IsGrouping (Decimal.ofInt n) (grouped (Decimal.ofInt n)) := by
  obtain ⟨sign, signed, shape⟩ := ofInt_parts n
  have whole := Decimal.ofNat_digits n.natAbs
  have grouping := grouping_parts signed whole (.inl rfl)
  rw [shape, grouped_signed signed whole]
  simpa using grouping

/-- Without its exponent a number is digits, with a point among them or none. -/
theorem positional_parts (n : Nat) (k : Int) : ∃ digits fraction,
    Decimal.positional n k = digits ++ fraction ∧ (∀ c ∈ digits, c.isDigit = true) ∧
      (fraction = [] ∨ ∃ places, fraction = '.' :: places ∧ ',' ∉ places) := by
  have written := Decimal.ofNat_digits n
  have zeros (count : Nat) : ∀ c ∈ List.replicate count '0', c.isDigit = true := by
    intro c member
    rw [List.eq_of_mem_replicate member]
    rfl
  unfold Decimal.positional
  dsimp only
  split
  · exact ⟨_, [], (List.append_nil _).symm, List.forall_mem_append.2 ⟨written, zeros _⟩, .inl rfl⟩
  · split
    · exact ⟨_, _, rfl, fun c member => written c (List.mem_of_mem_take member), .inr ⟨_, rfl,
        digits_apart rfl fun c member => written c (List.mem_of_mem_drop member)⟩⟩
    · exact ⟨['0'], _, rfl, List.forall_mem_singleton.2 rfl, .inr ⟨_, rfl,
        digits_apart rfl (List.forall_mem_append.2 ⟨zeros _, written⟩)⟩⟩

theorem signed_parts (negative : Bool) (text : List Char) : ∃ sign, (sign = [] ∨ sign = ['-']) ∧
    Decimal.signed negative text = sign ++ text := by
  cases negative
  · exact ⟨[], .inl rfl, rfl⟩
  · exact ⟨['-'], .inr rfl, rfl⟩

theorem plain_grouping (x : Float) : IsGrouping (Decimal.plain x) (groupedDecimal (Decimal.plain x)) := by
  rw [Decimal.plain]
  cases Decimal.reading x with
  | nan => exact grouping_bare "NaN".toList (Text.all_listed (by decide))
  | infinite negative =>
    cases negative
    · exact grouping_bare "inf".toList (Text.all_listed (by decide))
    · exact grouping_bare "-inf".toList (Text.all_listed (by decide))
  | zero negative =>
    obtain ⟨sign, signed, shape⟩ := signed_parts negative ['0']
    have number := @IsNumber.intro sign ['0'] [] signed (List.forall_mem_singleton.2 rfl) (.inl rfl)
    rw [List.append_nil, ← shape] at number
    exact number.grouping
  | finite negative magnitude =>
    obtain ⟨digits, fraction, written, whole, parted⟩ := positional_parts
      (Decimal.shortest .up magnitude).1 (Decimal.shortest .up magnitude).2
    obtain ⟨sign, signed, shape⟩ := signed_parts negative (digits ++ fraction)
    have number := IsNumber.intro signed whole parted
    rw [List.append_assoc, ← shape, ← written] at number
    exact number.grouping

end Numbers

/-- Counts, integers and numbers with a point stand in groups, and without its commas each is the
number as it is written anywhere. -/
theorem amounts_grouped :
    (∀ (count : Nat) (subject : Subject), ∃ number rest,
      countSentence count subject = "Count: " ++ String.ofList number ++ " " ++ rest ∧
        ' ' ∉ number ∧ IsGrouping (Decimal.ofNat count) number) ∧
    (∀ n : Int32, IsGrouping (Decimal.ofInt n.toInt) (groupedValue (.int n))) ∧
    (∀ n : Int64, IsGrouping (Decimal.ofInt n.toInt) (groupedValue (.long n))) ∧
    ∀ x : Float, IsGrouping (Decimal.plain x) (groupedValue (.double x)) := by
  refine ⟨fun count subject => ?_, fun n => ofInt_grouping _, fun n => ofInt_grouping _, plain_grouping⟩
  have whole := Decimal.ofNat_digits count
  have grouping := grouping_parts (.inl rfl) whole (.inl rfl)
  have same := grouped_signed (.inl rfl) whole
  simp only [List.nil_append, List.append_nil] at grouping same
  have unbroken : ' ' ∉ separated (Decimal.ofNat count) := by
    intro member
    rcases mem_separated member with blank | member
    · cases blank
    · exact absurd (whole _ member) (by decide)
  have sentence : countSentence count subject = "Count: " ++ String.ofList (separated (Decimal.ofNat count))
      ++ " " ++ ((if count = 1 then (nounsFor subject.question).1 else (nounsFor subject.question).2)
        ++ " in `" ++ subject.collection ++ "` " ++ (if count = 1 then "matches" else "match")
        ++ " your query.") := by
    rw [countSentence, same]
    simp only [String.append_assoc]
  exact ⟨_, _, sentence, unbroken, grouping⟩

example : groupedDecimal "-1234567.25".toList = "-1,234,567.25".toList := by decide

end Inquiry.Answer
