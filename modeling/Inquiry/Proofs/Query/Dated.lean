import Inquiry.Proofs.Calendar.Written
import Inquiry.Proofs.Query.Quoted

/-!
A date in an object of the shell, whichever constructor is called: a day is its midnight in UTC, a
time without a zone is in UTC, and from a time with a zone its offset is taken off.
-/
namespace Inquiry.ValueCall

section Calls

variable {lead name inside call content trail : List Char} {argument : Option (List Char)} {now : Int}

theorem blank_unopened {gap : List Char} (white : Text.IsWhite gap) : '(' ∉ gap :=
  fun member => absurd (white _ member) (by decide)

theorem IsDateName.unopened (named : IsDateName name) : '(' ∉ name := by
  cases named with
  | iso => decide
  | constructor white =>
    simp only [List.mem_append, not_or]
    exact ⟨by decide, blank_unopened white, by decide⟩

theorem IsDateName.ends (named : IsDateName name) : name.getLast? = some 'e' := by
  cases named with
  | iso => rfl
  | constructor =>
    rw [← List.append_assoc, List.getLast?_append]
    rfl

theorem IsArgument.unopened (given : IsArgument (some content) inside)
    (harmless : ∀ c ∈ content, IsHarmless c) : '(' ∉ inside := by
  have marked {c : Char} (mark : isMark c = true) : '(' ≠ c := by
    rintro rfl
    cases mark
  cases given with
  | given whiteBefore whiteAfter opens closes =>
    simp only [List.mem_append, List.mem_cons, not_or]
    exact ⟨blank_unopened whiteBefore, marked opens, fun member => (harmless _ member).2.2.2 rfl,
      marked closes, blank_unopened whiteAfter⟩

/-- Before the only opening bracket of a text stands what stands there in a part of it. -/
theorem suffix_opened {word front back : List Char} (unopened : '(' ∉ front) (closed : '(' ∉ back)
    (found : word ++ ['('] <:+: front ++ '(' :: back) : word <:+ front := by
  obtain ⟨before, after, same⟩ := found
  have shape : (before ++ word) ++ '(' :: after = front ++ '(' :: back := by simpa using same
  rcases Text.split_middle shape with ⟨more, rfl⟩ | ⟨more, whole, rest⟩
  · exact absurd (by simp) unopened
  · cases more with
    | nil => exact ⟨before, by simpa using whole⟩
    | cons c more =>
      exact absurd ((List.cons.inj rest).2 ▸ List.mem_append_right more List.mem_cons_self) closed

/-- A date is no identifier, and no other call stands around it. -/
theorem date_only (isCall : IsCall (.date (some content)) call)
    (harmless : ∀ c ∈ content, IsHarmless c) (unopened : '(' ∉ lead) (plain : '(' ∉ trail)
    {made : Made} {other : List Char} (id : made.isDate = false) (isOther : IsCall made other) :
    ¬ other <:+: lead ++ (call ++ trail) := by
  intro found
  cases isOther with
  | date => cases id
  | @id hex within =>
    cases isCall with
    | @date _ name inside named given =>
      have opening : "ObjectId".toList ++ ['('] <:+: (lead ++ name) ++ '(' :: (inside ++ ')' :: trail) := by
        have begins : "ObjectId".toList ++ ['('] <+: "ObjectId".toList ++ '(' :: (within ++ [')']) :=
          ⟨within ++ [')'], by simp⟩
        simpa using begins.isInfix.trans found
      have front : '(' ∉ lead ++ name := by simpa using ⟨unopened, named.unopened⟩
      have back : '(' ∉ inside ++ ')' :: trail := by simpa using ⟨given.unopened harmless, plain⟩
      obtain ⟨before, same⟩ := suffix_opened front back opening
      have ends := congrArg List.getLast? same
      rw [List.getLast?_append, List.getLast?_append, named.ends] at ends
      exact absurd (Option.some.inj ends) (by decide)

theorem IsCall.first {made : Made} (isCall : IsCall made call) :
    ∃ first rest, call = first :: rest ∧ Text.isWhitespace first = false := by
  cases isCall with
  | id => exact ⟨'O', _, rfl, by decide⟩
  | date named given =>
    cases named with
    | iso => exact ⟨'I', _, rfl, by decide⟩
    | constructor => exact ⟨'n', _, rfl, by decide⟩

/-- The one call of an object is replaced by the object of its date. -/
theorem expand_date (isCall : IsCall (.date (some content)) call)
    (harmless : ∀ c ∈ content, IsHarmless c) (unopened : '(' ∉ lead) (plain : '(' ∉ trail)
    (unclosed : ')' ∉ trail) :
    expand now (lead ++ ':' :: ' ' :: (call ++ trail)) =
      lead ++ ':' :: ' ' :: (dateObject (normalized content) ++ trail) := by
  have border : IsBorder ':' := ⟨by decide, by decide, by decide⟩
  have signs : '(' ∉ lead ++ [':', ' '] := by simpa using unopened
  have ids : Replaced (instantText now) false (lead ++ ':' :: ' ' :: (call ++ trail))
      (lead ++ ':' :: ' ' :: (call ++ trail)) := by
    refine replaced_same fun made other id isOther => ?_
    have shape : lead ++ ':' :: ' ' :: (call ++ trail) = (lead ++ [':', ' ']) ++ (call ++ trail) := by simp
    rw [shape]
    exact date_only isCall harmless signs plain id isOther
  have trailing : Replaced (instantText now) true trail trail := by
    refine replaced_same fun made other _ isOther inside => unclosed (inside.subset ?_)
    obtain ⟨_, _, rfl, _⟩ := isOther.shape
    simp
  have blank : ∀ made other, made.isDate = true → IsCall made other →
      ¬ other <+: ' ' :: (call ++ trail) := by
    rintro made other _ isOther ⟨rest, same⟩
    obtain ⟨first, more, rfl, visible⟩ := isOther.first
    rw [(List.cons.inj same).1] at visible
    cases visible
  exact expand_of_replaced ids (.lead (.kept blank (.call rfl isCall trailing)) unopened border)

end Calls

open Calendar

section Normalized

variable {date : Date} {clock : Clock} {zone : Zone} {front rest : List Char}

/-- A day without a time begins. -/
theorem normalized_day (current : 0 ≤ date.year) (recent : date.year ≤ 9999) :
    normalized (dateText date) = dateText date ++ 'T' :: (Clock.midnight.text ++ Zone.utc.text) := by
  have untimed : (dateText date).contains 'T' = false := by
    have signs : ∀ c ∈ "0123456789-".toList, c ≠ 'T' := Text.all_listed (by decide)
    simpa using fun member => signs _ (dateText_listed current recent _ member) rfl
  simp only [normalized, untimed, Bool.not_false, if_true]
  rfl

theorem afterLastT_time (timed : 'T' ∉ rest) : afterLastT (front ++ 'T' :: rest) = rest := by
  have reversed : (front ++ 'T' :: rest).reverse = rest.reverse ++ 'T' :: front.reverse := by simp
  have kept : ∀ c ∈ rest.reverse, decide (c ≠ 'T') = true := by
    intro c member
    refine decide_eq_true fun same => timed (same ▸ List.mem_reverse.1 member)
  rw [afterLastT, reversed, (Text.span_append _ _ _ kept (by simp)).1, List.reverse_reverse]

/-- A zone shows in the last character of a time or in a sign. -/
theorem hasZone_time (timed : 'T' ∉ rest) : hasZone (front ++ 'T' :: rest) =
    (rest.getLast? == some 'Z' || rest.any fun c => c == '+' || c == '-') := by
  have last : (front ++ 'T' :: rest).getLast? = some (rest.getLast?.getD 'T') := by
    rw [List.getLast?_append, List.getLast?_cons]
    rfl
  rw [hasZone, afterLastT_time timed, last]
  cases rest.getLast? <;> rfl

theorem normalized_time (front rest : List Char) : normalized (front ++ 'T' :: rest) =
    if hasZone (front ++ 'T' :: rest) then front ++ 'T' :: rest else front ++ 'T' :: (rest ++ ['Z']) := by
  have separated : (front ++ 'T' :: rest).contains 'T' = true := by simp
  simp only [normalized, separated, Bool.not_true, Bool.false_eq_true, if_false]
  split <;> simp

theorem normalized_local (timed : clock.IsValid) : normalized (front ++ 'T' :: clock.text) =
    front ++ 'T' :: (clock.text ++ Zone.utc.text) := by
  have signs : ∀ c ∈ "0123456789:.".toList, c ≠ 'T' ∧ c ≠ 'Z' ∧ c ≠ '+' ∧ c ≠ '-' :=
    Text.all_listed (by decide)
  have plain (c : Char) (member : c ∈ clock.text) := signs c (clock_listed timed c member)
  have unzoned : hasZone (front ++ 'T' :: clock.text) = false := by
    rw [hasZone_time fun member => (plain _ member).1 rfl, Bool.or_eq_false_iff, List.any_eq_false]
    refine ⟨?_, fun c member => by simp [(plain c member).2.2]⟩
    refine beq_eq_false_iff_ne.2 fun last => ?_
    exact (plain _ (List.mem_of_getLast? last)).2.1 rfl
  rw [normalized_time, unzoned]
  rfl

theorem normalized_zoned (timed : clock.IsValid) (zone : Zone) :
    normalized (front ++ 'T' :: (clock.text ++ zone.text)) = front ++ 'T' :: (clock.text ++ zone.text) := by
  have signs : ∀ c ∈ "0123456789:.".toList, c ≠ 'T' := Text.all_listed (by decide)
  have zoneSigns : ∀ c ∈ "0123456789:+-Z".toList, c ≠ 'T' := Text.all_listed (by decide)
  have separate : 'T' ∉ clock.text ++ zone.text := by
    intro member
    rcases List.mem_append.1 member with inside | inside
    · exact signs _ (clock_listed timed _ inside) rfl
    · exact zoneSigns _ (zone_listed zone _ inside) rfl
  have zoned : hasZone (front ++ 'T' :: (clock.text ++ zone.text)) = true := by
    rw [hasZone_time separate, Bool.or_eq_true]
    cases zone with
    | utc => exact .inl (by simp [Zone.text])
    | east | west => exact .inr (by simp [Zone.text])
  rw [normalized_time, zoned]
  rfl

end Normalized

end Inquiry.ValueCall

namespace Inquiry.Query

open Json Calendar Inquiry.Relaxed Inquiry.ValueCall

def memberText (key value : List Char) : List Char := '\x7b' :: (key ++ ':' :: ' ' :: (value ++ ['\x7d']))

/-- The text is a document that holds this instant, in milliseconds since 1970, under the key. -/
def HoldsInstant (now : Int) (text key : List Char) (milliseconds : Int) : Prop :=
  ∃ instant : Int64, document now text = .ok [(String.ofList key, .date instant)] ∧
    instant.toInt = milliseconds

section Documents

variable {key call content instant : List Char} {now : Int}

theorem dateObject_parts (instant : List Char) : dateObject instant =
    '\x7b' :: ([] ++ '"' :: ("$date".toList ++ ['"', ':']) ++ [' '] ++ ('"' :: (instant ++ ['"'])) ++
      ['\x7d']) := by
  have parts {opening : List Char} (same : "\x7b\"$date\": \"".toList = opening) :
      dateObject instant = opening ++ instant ++ ['"', '\x7d'] := by
    subst same
    rfl
  have whole : dateObject instant =
      '\x7b' :: '"' :: ("$date".toList ++ ['"', ':', ' ', '"']) ++ instant ++ ['"', '\x7d'] :=
    parts (by decide +kernel)
  rw [whole]
  simp

theorem isText_member (bare : IsBareKey key) (plain : ∀ c ∈ instant, 0x20 ≤ c.toNat ∧ c ≠ '"' ∧ c ≠ '\\') :
    IsText .shell (.object [(String.ofList key, .object [("$date", .text (String.ofList instant))])])
      (memberText key (dateObject instant)) := by
  have text : Prints .shell (.value (.text (String.ofList instant))) ('"' :: (instant ++ ['"'])) := by
    apply Prints.text
    apply Quoted.double
    rw [String.toList_ofList]
    exact spells_plain plain
  have label : Label .shell "$date" ([] ++ '"' :: ("$date".toList ++ ['"', ':'])) :=
    Label.plain "$date" gap_nil (Text.all_listed (by decide))
  have inner := Prints.object (.lastEntry label text.spaced) (.inl rfl)
  have object := Prints.object (.lastEntry (label_bare bare) inner.spaced) (.inl rfl)
  refine ⟨[], _, [], ?_, gap_nil, gap_nil, object⟩
  rw [dateObject_parts]
  simp [memberText]

theorem value_instant (plain : key.head? ≠ some '$') {millis : Int64}
    (read : (instant? instant).bind Extended.int64? = some millis) :
    Extended.value? (.object [(String.ofList key, .object [("$date", .text (String.ofList instant))])]) =
      some (.document [(String.ofList key, .date millis)]) := by
  have inner : Extended.value? (.object [("$date", .text (String.ofList instant))]) =
      ((instant? (String.ofList instant).toList).bind Extended.int64?).map .date := rfl
  have undollared : (String.ofList key).toList.head? ≠ some '$' := by rwa [String.toList_ofList]
  rw [String.toList_ofList, read] at inner
  rw [Extended.value?, Extended.shape_plain undollared]
  simp only [Extended.fields, inner]
  rfl

/-- The constructor of a date is read as its argument, normalized. -/
theorem document_call (bare : IsBareKey key) (plain : key.head? ≠ some '$')
    (isCall : IsCall (.date (some content)) call)
    (legible : ∀ c ∈ normalized content, IsHarmless c ∧ c ≠ '"') {millis : Int64}
    (read : (instant? (normalized content)).bind Extended.int64? = some millis) :
    document now (memberText key call) = .ok [(String.ofList key, .date millis)] := by
  have harmless : ∀ c ∈ content, IsHarmless c := by
    obtain ⟨more, same, _⟩ := normalized_parts content
    intro c member
    exact (legible c (same ▸ List.mem_append_left more member)).1
  have unopened : '(' ∉ '\x7b' :: key := fun member => label_unopened bare (by simp_all)
  have expanded : expand now (memberText key call) = memberText key (dateObject (normalized content)) :=
    expand_date isCall harmless unopened (by decide) (by decide)
  have signs : ∀ c ∈ normalized content, 0x20 ≤ c.toNat ∧ c ≠ '"' ∧ c ≠ '\\' := fun c member =>
    ⟨(legible c member).1.1, (legible c member).2, (legible c member).1.2.2.1⟩
  have shallow : depth (.object [(String.ofList key,
      .object [("$date", .text (String.ofList (normalized content)))])]) ≤ maxDepth := by
    simp [depthOfEntries, depth, maxDepth]
  have strict := (strict_shell (isText_member bare signs) shallow).2
  have found : json now (memberText key call) = .ok (.object [(String.ofList key,
      .object [("$date", .text (String.ofList (normalized content)))])]) := by
    have relaxed := @json_relaxed key now bare (':' :: ' ' :: (call ++ ['\x7d']))
    rw [← strict, ← expanded]
    exact relaxed
  rw [document, Query.value, found]
  simp only [value_instant plain read]
  rfl

end Documents

section Instants

variable {date : Date} {clock : Clock} {zone : Zone} {key content call : List Char} {now : Int}

/-- The call holds what its argument denotes once that has a time and a zone. -/
theorem holdsInstant_call (bare : IsBareKey key) (plain : key.head? ≠ some '$') (valid : date.IsValid)
    (current : 0 ≤ date.year) (recent : date.year ≤ 9999) (timed : clock.IsValid) (zoned : zone.IsValid)
    (isCall : IsCall (.date (some content)) call)
    (whole : normalized content = dateText date ++ 'T' :: (clock.text ++ zone.text)) :
    HoldsInstant now (memberText key call) key (millisecondsAt date.number clock zone.offset) := by
  have dateSigns : ∀ c ∈ "0123456789-".toList, IsHarmless c ∧ c ≠ '"' := Text.all_listed (by decide)
  have clockSigns : ∀ c ∈ "0123456789:.".toList, IsHarmless c ∧ c ≠ '"' := Text.all_listed (by decide)
  have zoneSigns : ∀ c ∈ "0123456789:+-Z".toList, IsHarmless c ∧ c ≠ '"' := Text.all_listed (by decide)
  have legible : ∀ c ∈ normalized content, IsHarmless c ∧ c ≠ '"' := by
    rw [whole]
    simp only [List.forall_mem_append, List.forall_mem_cons]
    exact ⟨fun c member => dateSigns c (dateText_listed current recent c member), by decide,
      fun c member => clockSigns c (clock_listed timed c member),
      fun c member => zoneSigns c (zone_listed zone c member)⟩
  -- four digits of a year keep the instant within 64 bits
  obtain ⟨low, high⟩ := milliseconds_bounds valid timed zoned current recent
  have read : (instant? (normalized content)).bind Extended.int64? =
      some (Int64.ofInt (millisecondsAt date.number clock zone.offset)) := by
    rw [whole, instant_written valid timed zoned current recent]
    simp [Extended.int64?, low, high]
  exact ⟨_, document_call bare plain isCall legible read, Decimal.long_toInt low high⟩

/-- A date constructor holds the midnight of a day in UTC, a time that is in UTC without a zone, and
with one what the clocks show there. -/
theorem document_instant (now : Int) {key : List Char} (bare : IsBareKey key)
    (plain : key.head? ≠ some '$') {date : Date} (valid : date.IsValid) (current : 0 ≤ date.year)
    (recent : date.year ≤ 9999) : ∃ days, IsDayNumber date days ∧
      (∀ call, IsCall (.date (some (dateText date))) call →
        HoldsInstant now (memberText key call) key (days * msPerDay)) ∧
      ∀ clock : Clock, clock.IsValid →
        (∀ call, IsCall (.date (some (dateText date ++ 'T' :: clock.text))) call →
          HoldsInstant now (memberText key call) key (millisecondsAt days clock 0)) ∧
        ∀ zone : Zone, zone.IsValid → ∀ call,
          IsCall (.date (some (dateText date ++ 'T' :: (clock.text ++ zone.text)))) call →
            HoldsInstant now (memberText key call) key (millisecondsAt days clock zone.offset) := by
  refine ⟨date.number, (isDayNumber_iff valid).2 rfl, fun call isCall => ?_, fun clock timed =>
    ⟨fun call isCall => ?_, fun zone zoned call isCall => ?_⟩⟩
  · have midnight : millisecondsAt date.number Clock.midnight Zone.utc.offset = date.number * msPerDay :=
      millisecondsAt_midnight date.number
    rw [← midnight]
    exact holdsInstant_call bare plain valid current recent midnight_valid trivial isCall
      (normalized_day current recent)
  · have utc : Zone.utc.IsValid := trivial
    have read : HoldsInstant now (memberText key call) key
        (millisecondsAt date.number clock Zone.utc.offset) :=
      holdsInstant_call bare plain valid current recent timed utc isCall (normalized_local timed)
    exact read
  · exact holdsInstant_call bare plain valid current recent timed zoned isCall
      (normalized_zoned timed zone)

/-- Clocks an hour ahead show the new year half an hour before it begins in UTC. -/
theorem document_instant_ahead :
    HoldsInstant 0 "\x7bd: new Date('1970-01-01T00:30:00.0005+01:00')\x7d".toList ['d'] (-1799999) := by
  have bare : IsBareKey ['d'] := ⟨.inl (by decide), by simp⟩
  have timed : Clock.IsValid ⟨0, 30, 0, "0005".toList⟩ :=
    ⟨by decide, by decide, by decide, Text.all_listed (by decide)⟩
  have zoned : (Zone.east 1 0).IsValid := ⟨by decide, by decide⟩
  obtain ⟨days, counted, _, times⟩ := document_instant 0 bare (by decide) epoch_valid
    (by decide) (by decide)
  obtain rfl : days = 0 := (isDayNumber_iff epoch_valid).1 counted
  have content : dateText epoch ++ 'T' :: (Clock.text ⟨0, 30, 0, "0005".toList⟩ ++ (Zone.east 1 0).text) =
      "1970-01-01T00:30:00.0005+01:00".toList := by decide
  have held := (times _ timed).2 _ zoned
  have ahead : millisecondsAt 0 ⟨0, 30, 0, "0005".toList⟩ (Zone.east 1 0).offset = -1799999 := by decide
  rw [content, ahead] at held
  have space : Text.IsWhite [' '] := by simp [Text.IsWhite, show Text.isWhitespace ' ' = true by decide]
  have empty : Text.IsWhite [] := by simp [Text.IsWhite]
  have argument := @IsArgument.given [] "1970-01-01T00:30:00.0005+01:00".toList [] '\'' '\'' empty empty
    rfl rfl (Text.all_listed (by decide))
  have text : "\x7bd: new Date('1970-01-01T00:30:00.0005+01:00')\x7d".toList = memberText ['d']
      ("new".toList ++ ([' '] ++ "Date".toList) ++ '(' :: ([] ++ '\'' ::
        ("1970-01-01T00:30:00.0005+01:00".toList ++ ['\'']) ++ [')'])) := by decide +kernel
  rw [text]
  exact held _ (.date (.constructor space (by decide)) argument)

end Instants

end Inquiry.Query
