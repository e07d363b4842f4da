import Inquiry.Proofs.Decimal.Digits
import Inquiry.Proofs.Query.Constructor

/-!
What becomes of a text in which every constructor call is replaced: what stands around a string has
no part in it, each replaced call leaves fewer brackets, and its quotation marks show.
-/
namespace Inquiry.ValueCall

inductive Replaced (now : List Char) (dates : Bool) : List Char → List Char → Prop
  | nil : Replaced now dates [] []
  | kept {c : Char} {text out : List Char}
      (free : ∀ made call, made.isDate = dates → IsCall made call → ¬ call <+: c :: text)
      (more : Replaced now dates text out) : Replaced now dates (c :: text) (c :: out)
  | call {made : Made} {call text out : List Char} (kind : made.isDate = dates)
      (isCall : IsCall made call) (more : Replaced now dates text out) :
      Replaced now dates (call ++ text) (made.object now ++ out)

def Finds (now : List Char) (dates : Bool) (found : List Char → Found) : Prop :=
  ∀ text replacement rest, found text = some (replacement, rest) ↔
    ∃ made call, made.isDate = dates ∧ IsCall made call ∧ text = call ++ rest ∧
      replacement = made.object now

section Replacing

variable {now text out rest call replacement : List Char} {made : Made} {dates : Bool}
  {found : List Char → Found}

theorem objectId_finds (now : List Char) : Finds now false objectId := by
  intro text replacement rest
  rw [objectId_iff]
  constructor
  · rintro ⟨hex, call, isCall, shape, same⟩
    exact ⟨.id hex, call, rfl, isCall, shape, same⟩
  · rintro ⟨made, call, kind, isCall, shape, same⟩
    cases made with
    | id hex => exact ⟨hex, call, isCall, shape, same⟩
    | date argument => cases kind

theorem date_finds (now : List Char) : Finds now true (date now) := by
  intro text replacement rest
  rw [date_iff]
  constructor
  · rintro ⟨argument, call, isCall, shape, same⟩
    exact ⟨.date argument, call, rfl, isCall, shape, same⟩
  · rintro ⟨made, call, kind, isCall, shape, same⟩
    cases made with
    | id hex => cases kind
    | date argument => exact ⟨argument, call, isCall, shape, same⟩

theorem Finds.none (finds : Finds now dates found) : found text = none ↔
    ∀ made call, made.isDate = dates → IsCall made call → ¬ call <+: text := by
  constructor
  · rintro unfound made call kind isCall ⟨rest, rfl⟩
    rw [(finds _ _ rest).2 ⟨made, call, kind, isCall, rfl, rfl⟩] at unfound
    cases unfound
  · intro free
    cases same : found text with
    | none => rfl
    | some pair =>
      obtain ⟨made, call, kind, isCall, shape, _⟩ := (finds _ _ _).1 same
      exact absurd ⟨_, shape.symm⟩ (free made call kind isCall)

theorem replaceAfter_skip (skip : Nat) :
    Text.replaceAfter found skip text = Text.replaceAfter found 0 (text.drop skip) := by
  induction skip generalizing text with
  | zero => rfl
  | succ skip ih =>
    cases text with
    | nil => simp [Text.replaceAfter]
    | cons c text => exact ih

theorem IsCall.shape (isCall : IsCall made call) :
    ∃ name inside, call = name ++ '(' :: (inside ++ [')']) ∧
      ∀ c ∈ name, c.isAlpha = true ∨ Text.isWhitespace c = true := by
  have letters {name : String} (alpha : name.toList.all Char.isAlpha = true) :
      ∀ c ∈ name.toList, c.isAlpha = true ∨ Text.isWhitespace c = true :=
    fun c member => .inl (List.all_eq_true.1 alpha c member)
  cases isCall with
  | id => exact ⟨_, _, rfl, letters (by decide)⟩
  | date named given =>
    refine ⟨_, _, rfl, ?_⟩
    cases named with
    | iso => exact letters (by decide)
    | constructor white nonempty =>
      exact List.forall_mem_append.2 ⟨letters (by decide),
        List.forall_mem_append.2 ⟨fun c member => .inr (white c member), letters (by decide)⟩⟩

theorem replaceAll_call (finds : Finds now dates found) (kind : made.isDate = dates)
    (isCall : IsCall made call) :
    Text.replaceAll found (call ++ rest) = made.object now ++ Text.replaceAll found rest := by
  obtain ⟨name, inside, rfl, _⟩ := isCall.shape
  obtain ⟨c, call, shape⟩ := List.exists_cons_of_ne_nil
    (show name ++ '(' :: (inside ++ [')']) ≠ [] by simp)
  rw [shape] at isCall ⊢
  have here := (finds (c :: call ++ rest) _ rest).2 ⟨made, _, kind, isCall, rfl, rfl⟩
  rw [List.cons_append] at here ⊢
  rw [Text.replaceAll, Text.replaceAfter, here]
  simp only
  rw [replaceAfter_skip, List.length_append, Nat.add_sub_cancel, List.drop_left]
  rfl

theorem replaceAll_keep {c : Char} (unfound : found (c :: text) = none) :
    Text.replaceAll found (c :: text) = c :: Text.replaceAll found text := by
  rw [Text.replaceAll, Text.replaceAfter, unfound]
  rfl

theorem Finds.replaced (finds : Finds now dates found) (text : List Char) :
    Replaced now dates text (Text.replaceAll found text) := by
  -- A call takes many characters at once, so the induction is on the length.
  induction size : text.length using Nat.strongRecOn generalizing text with
  | ind n ih =>
    cases text with
    | nil => exact .nil
    | cons c text =>
      cases here : found (c :: text) with
      | none =>
        rw [replaceAll_keep here]
        exact .kept (finds.none.1 here) (ih text.length (by simp [← size]) text rfl)
      | some pair =>
        obtain ⟨made, call, kind, isCall, shape, _⟩ := (finds _ _ _).1 here
        rw [shape, replaceAll_call finds kind isCall]
        refine .call kind isCall (ih _ ?_ _ rfl)
        obtain ⟨name, inside, rfl, _⟩ := isCall.shape
        have length := congrArg List.length shape
        simp only [List.length_append, List.length_cons] at length size
        omega

theorem Replaced.replaceAll (replaced : Replaced now dates text out) (finds : Finds now dates found) :
    Text.replaceAll found text = out := by
  induction replaced with
  | nil => rfl
  | kept free more ih => rw [replaceAll_keep (finds.none.2 free), ih]
  | call kind isCall more ih => rw [replaceAll_call finds kind isCall, ih]

theorem replaced_same
    (free : ∀ made call, made.isDate = dates → IsCall made call → ¬ call <:+: text) :
    Replaced now dates text text := by
  induction text with
  | nil => exact .nil
  | cons c text ih =>
    refine .kept (fun made call kind isCall begins => free made call kind isCall begins.isInfix) ?_
    exact ih fun made call kind isCall inside =>
      free made call kind isCall (inside.trans (List.suffix_cons c text).isInfix)

/-- What a closing bracket ends does not reach into a text without one. -/
theorem prefix_closed {front trail : List Char} (unclosed : ')' ∉ trail)
    (found : front ++ [')'] <+: text ++ trail) : front ++ [')'] <+: text := by
  obtain ⟨rest, same⟩ := found
  rcases List.append_eq_append_iff.1 same with ⟨more, shape, _⟩ | ⟨more, shape, trailShape⟩
  · exact ⟨more, shape.symm⟩
  · rcases List.eq_nil_or_concat more with rfl | ⟨init, last, rfl⟩
    · exact ⟨[], by simpa using shape⟩
    · simp only [List.concat_eq_append, ← List.append_assoc] at shape
      obtain rfl := List.cons.inj (List.append_inj' shape rfl).2 |>.1
      exact absurd (by simp [trailShape]) unclosed

theorem Replaced.trail {trail : List Char} (replaced : Replaced now dates text out)
    (unclosed : ')' ∉ trail) : Replaced now dates (text ++ trail) (out ++ trail) := by
  induction replaced with
  | nil =>
    refine replaced_same fun made call _ isCall inside => unclosed (inside.subset ?_)
    obtain ⟨name, inside, rfl, _⟩ := isCall.shape
    simp
  | @kept c text out free more ih =>
    refine .kept (fun made call kind isCall begins => free made call kind isCall ?_) ih
    obtain ⟨name, inside, rfl, _⟩ := isCall.shape
    have shape : name ++ '(' :: (inside ++ [')']) = (name ++ '(' :: inside) ++ [')'] := by simp
    rw [shape] at begins ⊢
    exact prefix_closed unclosed begins
  | call kind isCall more ih =>
    rw [List.append_assoc, List.append_assoc]
    exact .call kind isCall ih

/-- The character is no part of the name of a call and does not end it. -/
def IsBorder (c : Char) : Prop := c.isAlpha = false ∧ Text.isWhitespace c = false ∧ c ≠ '('

/-- No call begins before a border that stands before every opening bracket. -/
theorem Replaced.lead {lead : List Char} {border : Char} (replaced : Replaced now dates text out)
    (unopened : '(' ∉ lead) (isBorder : IsBorder border) :
    Replaced now dates (lead ++ border :: text) (lead ++ border :: out) := by
  obtain ⟨noLetter, dark, other⟩ := isBorder
  have blocked {lead call : List Char} {made : Made} (unopened : '(' ∉ lead)
      (isCall : IsCall made call) : ¬ call <+: lead ++ border :: text := by
    rintro ⟨rest, same⟩
    obtain ⟨name, inside, rfl, letters⟩ := isCall.shape
    rw [List.append_assoc] at same
    have unmarked : border ∉ name := by
      intro member
      rcases letters _ member with letter | white
      · exact absurd letter (by simp [noLetter])
      · exact absurd white (by simp [dark])
    rcases List.append_eq_append_iff.1 same with ⟨more, shape, ends⟩ | ⟨more, shape, ends⟩
    · cases more with
      | nil => exact other (List.cons.inj ends).1.symm
      | cons c more =>
        rw [shape, ← (List.cons.inj ends).1] at unopened
        exact unopened (List.mem_append_right _ List.mem_cons_self)
    · cases more with
      | nil => exact other (List.cons.inj ends).1
      | cons c more =>
        rw [shape, ← (List.cons.inj ends).1] at unmarked
        exact unmarked (List.mem_append_right _ List.mem_cons_self)
  induction lead with
  | nil => exact .kept (fun made call _ isCall => blocked unopened isCall) replaced
  | cons c lead ih =>
    exact .kept (fun made call _ isCall => blocked unopened isCall)
      (ih fun member => unopened (List.mem_cons_of_mem c member))

end Replacing

/-- A character that ends no string, escapes nothing and opens no bracket. -/
def IsHarmless (c : Char) : Prop := 0x20 ≤ c.toNat ∧ c ≠ '\'' ∧ c ≠ '\\' ∧ c ≠ '('

instance : DecidablePred IsHarmless := fun c =>
  inferInstanceAs (Decidable (0x20 ≤ c.toNat ∧ c ≠ '\'' ∧ c ≠ '\\' ∧ c ≠ '('))

def IsInstant (now : List Char) : Prop := ∀ c ∈ now, IsHarmless c

section Objects

variable {now text out call : List Char} {made : Made} {dates : Bool}

theorem normalized_parts (text : List Char) :
    ∃ more, normalized text = text ++ more ∧ ∀ c ∈ more, IsHarmless c := by
  unfold normalized
  split
  next => exact ⟨_, rfl, Text.all_listed (by decide)⟩
  next =>
    split
    next => exact ⟨[], (List.append_nil _).symm, by simp⟩
    next => exact ⟨_, rfl, Text.all_listed (by decide)⟩

theorem dateObject_parts (text : List Char) :
    dateObject text = "\x7b\"$date\": \"".toList ++ (text ++ "\"\x7d".toList) :=
  List.append_assoc _ text _

/-- An object is the argument of its call, in a frame without brackets and apostrophes. -/
theorem IsCall.object_parts (isCall : IsCall made call) (instant : IsInstant now) :
    ∃ front content back, made.object now = front ++ (content ++ back) ∧
      (∀ c ∈ front, IsHarmless c) ∧ (∀ c ∈ back, IsHarmless c) ∧
      ∃ before after, call = before ++ (content ++ after) ∧ '(' ∈ before := by
  have idFrame : ∀ c ∈ "\x7b\"$oid\": \"".toList, IsHarmless c := Text.all_listed (by decide)
  have dateFrame : ∀ c ∈ "\x7b\"$date\": \"".toList, IsHarmless c := Text.all_listed (by decide)
  have ended : ∀ c ∈ "\"\x7d".toList, IsHarmless c := Text.all_listed (by decide)
  cases isCall with
  | @id hex _ _ _ argument =>
    cases argument with
    | @given before _ after opening closing =>
      refine ⟨"\x7b\"$oid\": \"".toList, hex, "\"\x7d".toList, List.append_assoc _ _ _, idFrame, ended,
        "ObjectId".toList ++ '(' :: (before ++ [opening]), closing :: (after ++ [')']), ?_, ?_⟩
      · simp only [List.append_assoc, List.cons_append, List.nil_append]
      · exact List.mem_append_right _ List.mem_cons_self
  | @date _ name inside _ argument =>
    cases argument with
    | none =>
      refine ⟨dateObject now, [], [], ?_, ?_, by simp, name ++ '(' :: (inside ++ [')']), [], ?_, ?_⟩
      · rw [List.append_nil, List.append_nil]
        rfl
      · rw [dateObject_parts, List.forall_mem_append, List.forall_mem_append]
        exact ⟨dateFrame, instant, ended⟩
      · rw [List.append_nil, List.append_nil]
      · exact List.mem_append_right _ List.mem_cons_self
    | @given before content after opening closing =>
      obtain ⟨more, same, harmless⟩ := normalized_parts content
      refine ⟨"\x7b\"$date\": \"".toList, content, more ++ "\"\x7d".toList, ?_, dateFrame,
        List.forall_mem_append.2 ⟨harmless, ended⟩, name ++ '(' :: (before ++ [opening]),
        closing :: (after ++ [')']), ?_, ?_⟩
      · change dateObject (normalized content) = _
        rw [dateObject_parts, same, List.append_assoc]
      · simp only [List.append_assoc, List.cons_append, List.nil_append]
      · exact List.mem_append_right _ List.mem_cons_self

theorem harmless_count (harmless : ∀ c ∈ text, IsHarmless c) : text.count '(' = 0 :=
  List.count_eq_zero.2 fun member => (harmless _ member).2.2.2 rfl

theorem IsCall.lighter (isCall : IsCall made call) (instant : IsInstant now) :
    (made.object now).count '(' < call.count '(' := by
  obtain ⟨front, content, back, same, harmless, harmlessBack, before, after, rfl, opened⟩ :=
    isCall.object_parts instant
  have positive := List.count_pos_iff.2 opened
  simp only [same, List.count_append, harmless_count harmless, harmless_count harmlessBack]
  omega

theorem Replaced.lighter (replaced : Replaced now dates text out) (instant : IsInstant now) :
    out.count '(' ≤ text.count '(' := by
  induction replaced with
  | nil => exact Nat.le_refl _
  | kept free more ih => simpa only [List.count_cons, Nat.add_le_add_iff_right] using ih
  | call kind isCall more ih =>
    rw [List.count_append, List.count_append]
    exact Nat.add_le_add (Nat.le_of_lt (isCall.lighter instant)) ih

/-- Where a call stands the text changes. -/
theorem Replaced.called (replaced : Replaced now dates text out) (instant : IsInstant now)
    (kind : made.isDate = dates) (isCall : IsCall made call) (inside : call <:+: text) :
    out.count '(' < text.count '(' := by
  induction replaced with
  | nil =>
    obtain ⟨name, within, rfl, _⟩ := isCall.shape
    simp at inside
  | @kept c text out free more ih =>
    rcases List.infix_cons_iff.1 inside with begins | inside
    · exact absurd begins (free made call kind isCall)
    · simpa only [List.count_cons, Nat.add_lt_add_iff_right] using ih inside
  | call kind isCall more ih =>
    rw [List.count_append, List.count_append]
    exact Nat.add_lt_add_of_lt_of_le (isCall.lighter instant) (more.lighter instant)

end Objects

section Instants

variable {c : Char}

end Instants

/-- The first quotation mark stands right before a dollar sign, and nothing before it is escaped. -/
def Reopens (text : List Char) : Prop :=
  ∃ front rest, text = front ++ '"' :: '$' :: rest ∧ ∀ c ∈ front, 0x20 ≤ c.toNat ∧ c ≠ '"' ∧ c ≠ '\\'

section Expanding

variable {text middle out trail : List Char} {instant : List Char} {dates : Bool} {now : Int}

theorem expand_of_replaced (ids : Replaced (instantText now) false text middle)
    (dates : Replaced (instantText now) true middle out) : expand now text = out := by
  rw [expand, ids.replaceAll (objectId_finds _), dates.replaceAll (date_finds _)]

theorem object_reopens (made : Made) (rest : List Char) : Reopens (made.object instant ++ rest) := by
  have front : ∀ c ∈ ['\x7b'], 0x20 ≤ c.toNat ∧ c ≠ '"' ∧ c ≠ '\\' := Text.all_listed (by decide)
  cases made with
  | id hex => exact ⟨['\x7b'], _, rfl, front⟩
  | date argument => cases argument <;> exact ⟨['\x7b'], _, rfl, front⟩

theorem Reopens.cons {c : Char} (plain : 0x20 ≤ c.toNat ∧ c ≠ '"' ∧ c ≠ '\\')
    (reopens : Reopens text) : Reopens (c :: text) := by
  obtain ⟨front, rest, rfl, all⟩ := reopens
  exact ⟨c :: front, rest, rfl, List.forall_mem_cons.2 ⟨plain, all⟩⟩

theorem Replaced.reopens (replaced : Replaced instant dates text out) (reopens : Reopens text) :
    Reopens out := by
  induction replaced with
  | nil =>
    obtain ⟨front, rest, same, _⟩ := reopens
    simp at same
  | @kept c text out free more ih =>
    obtain ⟨front, rest, same, all⟩ := reopens
    cases front with
    | nil =>
      obtain ⟨rfl, rfl⟩ := List.cons.inj same
      -- no call begins with the dollar sign
      generalize begun : '$' :: rest = tail at more
      cases more with
      | nil => cases begun
      | kept free more =>
        obtain ⟨rfl, rfl⟩ := List.cons.inj begun
        exact ⟨[], _, rfl, by simp⟩
      | call kind isCall more =>
        obtain ⟨name, inside, rfl, letters⟩ := isCall.shape
        cases name with
        | nil => cases begun
        | cons first name =>
          have letter := letters first List.mem_cons_self
          rw [← (List.cons.inj begun).1] at letter
          exact absurd letter (by decide)
    | cons first front =>
      obtain ⟨rfl, rfl⟩ := List.cons.inj same
      rw [List.forall_mem_cons] at all
      exact (ih ⟨front, rest, rfl, all.2⟩).cons all.1
  | call kind isCall more ih => exact object_reopens _ _

end Expanding

end Inquiry.ValueCall
