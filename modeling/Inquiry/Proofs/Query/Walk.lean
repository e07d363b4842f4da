import Inquiry.Proofs.Query.Places
import Inquiry.Proofs.Text.Offset

/-!
The pass over relaxed notation as a walk from place to place. Every step reads only what is in the
text and brings the walk on, and what it leaves to the rest of the walk is what the pass makes of it.
-/
namespace Inquiry.Relaxed

structure Walk where
  place : Nat
  /-- The last character that was neither blank nor inside a string. -/
  last : Option Char
  /-- The strict text so far, nearest first. -/
  out : List Char

def innerTurn (text : List Char) (stop : Nat) : Gathering → Option (Progress Gathering (List Char))
  | (place, out) =>
    if place < stop then do
      let c ← text[place]?
      if c = '\\' then
        match text[place + 1]? with
        | some d => return .on (place + 2, if d = '\'' then d :: out else d :: c :: out)
        | none => return .on (place + 1, c :: out)
      return .on (place + 1, if c = '"' then c :: '\\' :: out else c :: out)
    else some (.done out)

def innerStop? (text : List Char) (start stop : Nat) : Option Nat :=
  if start + 1 < stop then do
    let place ← before? stop
    let c ← text[place]?
    return if c = '\'' then place else stop
  else some stop

def withoutComma? (out : List Char) : Option (List Char) := do
  let bytes := Text.size (Text.trimEnd out.reverse)
  let (kept, _) ← Text.cut? bytes out.reverse
  if kept.getLast? = some ',' then
    let (shorter, _) ← Text.cut? (← before? bytes) out.reverse
    return shorter.reverse
  return out

namespace Walk

variable (text : List Char) (walk : Walk)

def double? : Option Walk := do
  let stop ← stringEnd? text '"' walk.place
  let part ← range? text walk.place stop
  return ⟨stop, some '"', part.reverse ++ walk.out⟩

def single? : Option Walk := do
  let stop ← stringEnd? text '\'' walk.place
  let inner ← innerStop? text walk.place stop
  let out ← turns (innerTurn text inner) (text.length + 1) (walk.place + 1, '"' :: walk.out)
  return ⟨stop, some '"', '"' :: out⟩

def pattern? : Option Walk := do
  let (object, next) ← expression? text walk.place
  return ⟨next, some '\x7d', object.reverse ++ walk.out⟩

def name? : Option Walk := do
  let (stop, _) ← gather? isNamePart text walk.place
  let name ← range? text walk.place stop
  let (after, _) ← gather? Text.isWhitespace text stop
  let last ← text[← before? stop]?
  return ⟨stop, some last, withName (text[after]? == some ':') name.reverse [] walk.out⟩

def close? (c : Char) : Option Walk := do
  let out ← withoutComma? walk.out
  return ⟨walk.place + 1, some c, c :: out⟩

def keep (c : Char) : Walk :=
  ⟨walk.place + 1, if Text.isWhitespace c then walk.last else some c, c :: walk.out⟩

def step? (c : Char) : Option Walk :=
  if c == '"' then walk.double? text
  else if c == '\'' then walk.single? text
  else if c == '/' && startsPattern walk.last then walk.pattern? text
  else if isNameStart c && startsKey walk.last then walk.name? text
  else if c == '\x7d' || c == ']' then walk.close? c
  else some (walk.keep c)

def turn? : Option (Progress Walk (List Char)) :=
  if walk.place < text.length then do
    let c ← text[walk.place]?
    return .on (← walk.step? text c)
  else some (.done walk.out.reverse)

def outcome : List Char :=
  ((text.drop walk.place).foldl step ⟨.plain, walk.last, walk.out⟩).finish.reverse

/-- A walk that has come further and comes to the same in the end. -/
structure LeadsTo (next : Walk) : Prop where
  onward : walk.place < next.place
  same : next.outcome text = walk.outcome text

end Walk

def strict? (text : List Char) : Option (List Char) :=
  turns (Walk.turn? text) (text.length + 1) ⟨0, none, []⟩

section Inner

variable {text part rest : List Char} {place start stop : Nat} {out result : List Char}

theorem inner_done (atEnd : ¬ place < stop) : innerTurn text stop (place, out) = some (.done out) := by
  rw [innerTurn, if_neg atEnd]

theorem inner_plain {c : Char} (here : text.drop place = c :: rest) (before : place < stop)
    (unescaped : c ≠ '\\') : innerTurn text stop (place, out) =
      some (.on (place + 1, if c = '"' then c :: '\\' :: out else c :: out)) := by
  rw [innerTurn, if_pos before, (drop_cons here).2.1, Option.bind_eq_bind, Option.bind_some,
    if_neg unescaped]
  rfl

theorem inner_escaped {c : Char} (here : text.drop place = '\\' :: c :: rest) (before : place < stop) :
    innerTurn text stop (place, out) =
      some (.on (place + 2, if c = '\'' then c :: out else c :: '\\' :: out)) := by
  obtain ⟨-, found, next⟩ := drop_cons here
  rw [innerTurn, if_pos before, found, Option.bind_eq_bind, Option.bind_some, if_pos rfl,
    (drop_cons next).2.1]
  rfl

theorem inner_last (here : text.drop place = ['\\']) (before : place < stop) :
    innerTurn text stop (place, out) = some (.on (place + 1, '\\' :: out)) := by
  obtain ⟨-, found, next⟩ := drop_cons here
  rw [innerTurn, if_pos before, found, Option.bind_eq_bind, Option.bind_some, if_pos rfl,
    List.getElem?_eq_none (Nat.not_lt.1 (drop_end next))]
  rfl

theorem inner_content (out : List Char) (content : IsContent '\'' part) (here : text.drop place = part ++ rest)
    (within : place + part.length ≤ stop) : ∃ next,
    (∀ last, part.foldl step ⟨.single, last, out⟩ = ⟨.single, last, next⟩) ∧
      ∀ result,
        EndsIn (innerTurn text stop) (fun state => text.length - state.1) (place + part.length, next) result →
        EndsIn (innerTurn text stop) (fun state => text.length - state.1) (place, out) result := by
  refine content_run (fun last out => ⟨.single, last, out⟩)
    (fun {place c rest} out here before inside unescaped =>
      ⟨_, inner_plain here before unescaped, fun last => ?_⟩)
    (fun {place c rest} out here before => ⟨_, inner_escaped here before, fun last => ?_⟩)
    content here within
  · by_cases quote : c = '"' <;> simp [step, inside, unescaped, quote]
  · by_cases mark : c = '\'' <;> simp [step, mark]

theorem inner_ends
    (ends : EndsIn (innerTurn text stop) (fun state => text.length - state.1) (place, out) result) :
    turns (innerTurn text stop) (text.length + 1) (place, out) = some result :=
  ends.turns (by simp only; omega)

theorem innerStop_closed (here : text.drop place = '\'' :: rest) (inside : start + 1 ≤ place) :
    innerStop? text start (place + 1) = some place := by
  rw [innerStop?, if_pos (Nat.lt_succ_of_le inside), before?, Option.bind_eq_bind, Option.bind_some,
    (drop_cons here).2.1]
  rfl

theorem innerStop_open (here : text.drop (start + 1) = rest) :
    innerStop? text start text.length =
      some (if rest.getLast? = some '\'' then text.length - 1 else text.length) := by
  rw [← here, List.getLast?_drop, innerStop?]
  by_cases inside : start + 1 < text.length
  · obtain ⟨c, found⟩ : ∃ c, text[text.length - 1]? = some c :=
      ⟨_, List.getElem?_eq_getElem (by omega)⟩
    rw [if_pos inside, if_neg (Nat.not_le.2 inside), before_pos (by omega), List.getLast?_eq_getElem?,
      Option.bind_eq_bind, Option.bind_some, found]
    simp
  · rw [if_neg inside, if_pos (Nat.not_lt.1 inside)]
    rfl

/-- A string that is not closed. Its last mark may be hidden by a backslash, and then its content is
taken to end there: the backslash is the last place, and its escape reaches behind it. -/
theorem inner_open (within : start < text.length) (here : text.drop (start + 1) = rest)
    (content : IsContent '\'' part) (atEnd : rest = part ∨ rest = part ++ ['\\']) (out : List Char) :
    ∃ inner next, innerStop? text start text.length = some inner ∧
      turns (innerTurn text inner) (text.length + 1) (start + 1, out) = some next ∧
      ∀ last, (rest.foldl step ⟨.single, last, out⟩).finish = '"' :: next := by
  have whole := drop_length here within
  have stop := innerStop_open here
  rcases atEnd with rfl | rfl
  · by_cases hidden : rest.getLast? = some '\''
    · obtain ⟨front, frontContent, rfl⟩ := content_last content hidden
      simp only [List.length_append, List.length_cons, List.length_nil] at whole
      rw [if_pos hidden] at stop
      obtain ⟨next, run, ends⟩ := @inner_content _ _ _ _ (text.length - 1) out frontContent here (by omega)
      have escape := @inner_escaped _ _ _ (text.length - 1) next _ (drop_append here) (by omega)
      refine ⟨_, '\'' :: next, stop, inner_ends (ends _ (.on escape ?_ (.done ?_))), fun last => ?_⟩
      · simp only
        omega
      · exact inner_done (by omega)
      · rw [List.foldl_append, run]
        simp [step, Pass.finish]
    · rw [if_neg hidden] at stop
      rw [← rest.append_nil] at here
      obtain ⟨next, run, ends⟩ := @inner_content _ _ _ _ text.length out content here (by omega)
      refine ⟨_, next, stop, inner_ends (ends _ (.done (inner_done (by omega)))),
        fun last => ?_⟩
      rw [run]
      rfl
  · rw [if_neg (by simp)] at stop
    simp only [List.length_append, List.length_cons, List.length_nil] at whole
    obtain ⟨next, run, ends⟩ := @inner_content _ _ _ _ text.length out content here (by omega)
    have escape := @inner_last _ _ text.length next (drop_append here) (by omega)
    refine ⟨_, '\\' :: next, stop, inner_ends (ends _ (.on escape ?_ (.done ?_))), fun last => ?_⟩
    · simp only
      omega
    · exact inner_done (by omega)
    · rw [List.foldl_append, run]
      simp [step, Pass.finish]

end Inner

section Arms

variable {text part rest : List Char} {walk : Walk} {c : Char}

theorem double_content {last : Option Char} {out : List Char} (content : IsContent '"' part) :
    part.foldl step ⟨.double, last, out⟩ = ⟨.double, last, part.reverse ++ out⟩ := by
  induction content generalizing out with
  | nil => rfl
  | @plain c rest inside unescaped more ih =>
    have kept : step ⟨.double, last, out⟩ c = ⟨.double, last, c :: out⟩ := by
      simp [step, inside, unescaped]
    rw [List.foldl_cons, kept, ih, List.reverse_cons, List.append_assoc]
    rfl
  | @escaped c rest more ih =>
    rw [show '\\' :: c :: rest = ['\\', c] ++ rest from rfl, List.foldl_append, double_escape, ih]
    simp

theorem double_leads (here : text.drop walk.place = '"' :: rest) :
    ∃ next, walk.double? text = some next ∧ walk.LeadsTo text next := by
  obtain ⟨within, -, behind⟩ := drop_cons here
  have opened : step ⟨.plain, walk.last, walk.out⟩ '"' = ⟨.double, walk.last, '"' :: walk.out⟩ := rfl
  obtain ⟨content, isContent, ⟨tail, rfl⟩ | atEnd⟩ := content_split '"' rest
  · have parts : text.drop walk.place = ('"' :: (content ++ ['"'])) ++ tail := by simp [here]
    have cut := range_part parts (Nat.le_of_lt within)
    have place : walk.place + ('"' :: (content ++ ['"'])).length =
        walk.place + 1 + content.length + 1 := by
      simp only [List.length_cons, List.length_append, List.length_nil]
      omega
    have next := drop_append parts
    rw [place] at cut next
    refine ⟨⟨walk.place + 1 + content.length + 1, some '"',
      ('"' :: (content ++ ['"'])).reverse ++ walk.out⟩, ?_, by simp only; omega, ?_⟩
    · simp [Walk.double?, stringEnd_closed (by decide) isContent behind, cut]
    · rw [Walk.outcome, Walk.outcome, next, here, List.foldl_cons, opened, List.foldl_append,
        double_content isContent, List.foldl_cons]
      simp [step]
  · have cut := range_part ((text.drop walk.place).append_nil.symm) (Nat.le_of_lt within)
    have whole := drop_length rfl (Nat.le_of_lt within)
    rw [← whole] at cut
    refine ⟨⟨text.length, some '"', (text.drop walk.place).reverse ++ walk.out⟩, ?_, within, ?_⟩
    · simp [Walk.double?, stringEnd_open isContent (atEnd.imp behind.trans behind.trans), cut]
    · rw [Walk.outcome, Walk.outcome, List.drop_length, here, List.foldl_cons, opened]
      rcases atEnd with rfl | rfl
      · rw [double_content isContent]
        simp [Pass.finish]
      · rw [List.foldl_append, double_content isContent]
        simp [Pass.finish, step]

theorem single_leads (here : text.drop walk.place = '\'' :: rest) :
    ∃ next, walk.single? text = some next ∧ walk.LeadsTo text next := by
  obtain ⟨within, -, behind⟩ := drop_cons here
  have opened : step ⟨.plain, walk.last, walk.out⟩ '\'' = ⟨.single, walk.last, '"' :: walk.out⟩ := rfl
  obtain ⟨content, isContent, ⟨tail, rfl⟩ | atEnd⟩ := content_split '\'' rest
  · obtain ⟨next, run, ends⟩ :=
      inner_content ('"' :: walk.out) isContent behind (Nat.le_refl _)
    obtain ⟨inside, -, after⟩ := drop_cons (drop_append behind)
    have inner := inner_ends (ends next (.done (inner_done (Nat.lt_irrefl _))))
    refine ⟨⟨walk.place + 1 + content.length + 1, some '"', '"' :: next⟩, ?_, by simp only; omega, ?_⟩
    · simp [Walk.single?, stringEnd_closed (by decide) isContent behind,
        innerStop_closed (drop_append behind) (Nat.le_add_right _ _), inner]
    · rw [Walk.outcome, Walk.outcome, after, here, List.foldl_cons, opened, List.foldl_append, run,
        List.foldl_cons]
      simp [step]
  · obtain ⟨inner, next, found, run, finish⟩ := inner_open within behind isContent atEnd ('"' :: walk.out)
    refine ⟨⟨text.length, some '"', '"' :: next⟩, ?_, within, ?_⟩
    · simp [Walk.single?, stringEnd_open isContent (atEnd.imp behind.trans behind.trans), found, run]
    · rw [Walk.outcome, Walk.outcome, List.drop_length, here, List.foldl_cons, opened, finish]
      rfl

theorem pattern_leads (here : text.drop walk.place = '/' :: rest)
    (starts : startsPattern walk.last = true) :
    ∃ next, walk.pattern? text = some next ∧ walk.LeadsTo text next := by
  obtain ⟨object, next, found, onward, run⟩ := expression_end text walk.place
  refine ⟨⟨next, some '\x7d', object.reverse ++ walk.out⟩, ?_, onward, ?_⟩
  · rw [Walk.pattern?, found]
    rfl
  · have opened : step ⟨.plain, walk.last, walk.out⟩ '/' = ⟨.pattern [], walk.last, walk.out⟩ := by
      simp [step, plainStep, starts]
    rw [(drop_cons here).2.2] at run
    rw [Walk.outcome, Walk.outcome, here, List.foldl_cons, opened, run]

theorem withoutComma_some (out : List Char) : withoutComma? out = some (dropComma out) := by
  have parts := (@List.takeWhile_append_dropWhile _ Text.isWhitespace out).symm
  have trimmed : Text.trimEnd out.reverse = (out.dropWhile Text.isWhitespace).reverse := by
    rw [Text.trimEnd, List.reverse_reverse]
  have whole : out.reverse = (out.dropWhile Text.isWhitespace).reverse ++
      (out.takeWhile Text.isWhitespace).reverse := by
    rw [← List.reverse_append, ← parts]
  have cut := Text.cut_append (out.dropWhile Text.isWhitespace).reverse
    (out.takeWhile Text.isWhitespace).reverse
  rw [← whole] at cut
  rw [withoutComma?, trimmed, cut, Option.bind_eq_bind, Option.bind_some]
  simp only [List.getLast?_reverse]
  split
  next first =>
    obtain ⟨rest, same⟩ := List.head?_eq_some_iff.1 first
    have bytes : Text.size (out.dropWhile Text.isWhitespace).reverse = Text.size rest.reverse + 1 := by
      rw [same, List.reverse_cons, Text.size_append]
      rfl
    rw [same, List.reverse_cons, List.append_assoc] at whole
    have shorter := Text.cut_append rest.reverse ([','] ++ (out.takeWhile Text.isWhitespace).reverse)
    rw [← whole] at shorter
    rw [bytes, before?, Option.bind_eq_bind, Option.bind_some, shorter]
    simp [dropComma, same]
  next other =>
    unfold dropComma
    split
    next same => exact absurd (by rw [same]; rfl) other
    next => rfl

theorem close_leads (here : text.drop walk.place = c :: rest) (closer : c = ']' ∨ c = '\x7d') :
    ∃ next, walk.close? c = some next ∧ walk.LeadsTo text next := by
  refine ⟨⟨walk.place + 1, some c, c :: dropComma walk.out⟩, ?_, Nat.lt_succ_self _, ?_⟩
  · rw [Walk.close?, withoutComma_some]
    rfl
  · rw [Walk.outcome, Walk.outcome, here, List.foldl_cons, step, plainStep_close closer,
      (drop_cons here).2.2]

/-- A character that begins nothing is taken alone. -/
theorem keep_leads (here : text.drop walk.place = c :: rest)
    (alone : plainStep walk.last walk.out c =
      ⟨.plain, if Text.isWhitespace c then walk.last else some c, c :: walk.out⟩) :
    walk.LeadsTo text (walk.keep c) := by
  refine ⟨Nat.lt_succ_self _, ?_⟩
  rw [Walk.outcome, Walk.outcome, here, List.foldl_cons, step, alone, Walk.keep,
    (drop_cons here).2.2]

theorem white_passes (white : Text.isWhitespace c = true) : Passes c := by
  refine ⟨?_, ?_, ?_, ?_, ?_⟩ <;>
    · rintro rfl
      exact absurd white (by decide)

theorem part_noKey (part : isNamePart c = true) : startsKey (some c) = false := by
  refine Bool.eq_false_iff.2 fun key => ?_
  simp only [startsKey, Bool.or_eq_true, beq_iff_eq, Option.some.injEq] at key
  rcases key with rfl | rfl
  all_goals exact absurd part (by decide)

theorem withName_gap (isKey : Bool) (name gap out : List Char) :
    withName isKey name gap out = gap ++ withName isKey name [] out := by
  cases isKey <;> simp [withName]

/-- A name ends without a sign of its own, so the pass sees its end later, and what it is only behind
the blanks that follow. -/
theorem name_over {seen gap out : List Char} {first : Char} {last : Option Char}
    (named : seen.head? = some first) (part : isNamePart first = true) (white : Text.IsWhite gap)
    (stops : ∀ c ∈ (gap ++ rest).head?, isNamePart c = false)
    (dark : ∀ c ∈ rest.head?, Text.isWhitespace c = false) :
    ((gap ++ rest).foldl step ⟨.name seen, last, out⟩).finish =
      ((gap ++ rest).foldl step
        ⟨.plain, some first, withName (rest.head? == some ':') seen [] out⟩).finish := by
  have alone {out : List Char} : gap.foldl step ⟨.plain, some first, out⟩ =
      ⟨.plain, some first, gap.reverse ++ out⟩ := by
    refine gathered (fun out => ⟨.plain, some first, out⟩) fun c member out => ?_
    have taken := @plainStep_passes c (some first) out (white_passes (white c member))
      (.inr (part_noKey part))
    rwa [white c member] at taken
  rw [List.foldl_append, List.foldl_append, alone]
  cases gap with
  | nil =>
    cases rest with
    | nil => simp [Pass.finish]
    | cons c rest => simp [step, stops c rfl, dark c rfl, named]
  | cons g gap =>
    have begun : step ⟨.name seen, last, out⟩ g = ⟨.afterName seen [g], last, out⟩ := by
      simp [step, stops g rfl, white g List.mem_cons_self]
    have spaced : gap.foldl step ⟨.afterName seen [g], last, out⟩ =
        ⟨.afterName seen (g :: gap).reverse, last, out⟩ := by
      rw [List.reverse_cons]
      refine gathered (fun gap => ⟨.afterName seen gap, last, out⟩) fun c member known => ?_
      simp [step, white c (List.mem_cons_of_mem _ member)]
    rw [List.foldl_cons, begun, spaced, ← withName_gap]
    cases rest with
    | nil => rfl
    | cons c rest => simp [step, dark c rfl, named]

theorem name_begun {name behind : List Char} (here : text.drop walk.place = c :: rest)
    (parts : text.drop walk.place = name ++ behind) (start : isNameStart c = true)
    (stops : ∀ c ∈ behind.head?, isNamePart c = false) : ∃ more, name = c :: more := by
  cases name with
  | nil =>
    have part := stops c (by rw [← List.nil_append behind, ← parts, here]; rfl)
    rw [nameStart_part start] at part
    cases part
  | cons d more =>
    obtain ⟨rfl, -⟩ := List.cons.inj (here.symm.trans parts)
    exact ⟨more, rfl⟩

/-- The last character of a part is read at the place before its end. -/
theorem last_place {place : Nat} {last : Char} (parts : text.drop place = part ++ rest)
    (nearest : part.getLast? = some last) :
    ∃ before, before? (place + part.length) = some before ∧ text[before]? = some last := by
  have positive : 0 < part.length := List.length_pos_iff.2 fun empty => by
    rw [empty] at nearest
    cases nearest
  refine ⟨place + (part.length - 1), ?_, ?_⟩
  · rw [before_pos (by omega), Nat.add_sub_assoc positive]
  · rw [← List.getElem?_drop, parts, List.getElem?_append_left (by omega), ← nearest,
      List.getLast?_eq_getElem?]

theorem name_leads (here : text.drop walk.place = c :: rest) (start : isNameStart c = true)
    (key : startsKey walk.last = true) :
    ∃ next, walk.name? text = some next ∧ walk.LeadsTo text next := by
  obtain ⟨within, -, -⟩ := drop_cons here
  obtain ⟨name, behind, gathered, parts, named, stops⟩ := gather_parts isNamePart text walk.place
  obtain ⟨gap, tail, gatheredGap, gapParts, white, dark⟩ :=
    gather_parts Text.isWhitespace text (walk.place + name.length)
  have cut := range_part parts (Nat.le_of_lt within)
  have after := drop_append parts
  rw [after] at gapParts
  obtain ⟨more, shape⟩ := name_begun here parts start stops
  obtain ⟨first, nearest⟩ : ∃ first, name.getLast? = some first := by
    rw [shape]
    exact ⟨_, List.getLast?_eq_some_getLast (List.cons_ne_nil c more)⟩
  obtain ⟨place, before, found⟩ := last_place parts nearest
  have sign : text[walk.place + name.length + gap.length]? = tail.head? := by
    rw [drop_head, ← List.drop_drop, after, gapParts, List.drop_left]
  refine ⟨⟨walk.place + name.length, some first,
    withName (tail.head? == some ':') name.reverse [] walk.out⟩, ?_, by simp [shape], ?_⟩
  · simp [Walk.name?, gathered, cut, gatheredGap, before, found, sign]
  · have run := @after_name walk.last walk.out c more start
      (fun d member => named d (by simp [shape, member])) key
    rw [gapParts] at stops
    rw [Walk.outcome, Walk.outcome, after, parts, List.foldl_append, shape, run, ← shape, gapParts,
      name_over (by rw [List.head?_reverse, nearest]) (named first (List.mem_of_getLast? nearest)) white
        stops dark]

theorem step_leads (here : text.drop walk.place = c :: rest) :
    ∃ next, walk.step? text c = some next ∧ walk.LeadsTo text next := by
  unfold Walk.step?
  split
  next double =>
    rw [beq_iff_eq.1 double] at here
    exact double_leads here
  next double =>
  split
  next single =>
    rw [beq_iff_eq.1 single] at here
    exact single_leads here
  next single =>
  split
  next pattern =>
    obtain ⟨slash, starts⟩ := Bool.and_eq_true_iff.1 pattern
    rw [beq_iff_eq.1 slash] at here
    exact pattern_leads here starts
  next pattern =>
  split
  next name =>
    obtain ⟨start, key⟩ := Bool.and_eq_true_iff.1 name
    exact name_leads here start key
  next name =>
  split
  next closer =>
    simp only [Bool.or_eq_true, beq_iff_eq] at closer
    exact close_leads here closer.symm
  next closer =>
    refine ⟨_, rfl, keep_leads here ?_⟩
    rw [plainStep, if_neg double, if_neg single, if_neg pattern, if_neg name, if_neg closer]

/-- One turn of the walk: all it reads is there, it comes further, and to the same in the end. -/
theorem turn_leads (within : walk.place < text.length) :
    ∃ next, walk.turn? text = some (.on next) ∧ walk.LeadsTo text next := by
  obtain ⟨next, stepped, leads⟩ := step_leads (List.drop_eq_getElem_cons within)
  refine ⟨next, ?_, leads⟩
  rw [Walk.turn?, if_pos within, List.getElem?_eq_getElem within, Option.bind_eq_bind, Option.bind_some,
    stepped]
  rfl

theorem turn_done (past : ¬ walk.place < text.length) :
    walk.turn? text = some (.done (walk.outcome text)) := by
  rw [Walk.turn?, if_neg past, Walk.outcome, List.drop_eq_nil_of_le (Nat.not_lt.1 past)]
  rfl

/-- The walk reads nothing outside the text, ends, and comes to what the pass makes of it. -/
theorem strict_walk (text : List Char) : strict? text = some (strict text) := by
  have sound (walk : Walk) : Sound (Walk.turn? text) (fun walk => text.length - walk.place)
      (fun walk result => result = walk.outcome text) walk := by
    by_cases within : walk.place < text.length
    · obtain ⟨next, turned, onward, same⟩ := turn_leads within
      exact .on turned (by omega) fun result holds => holds.trans same
    · exact .done (turn_done within) rfl
  have enough : text.length - 0 < text.length + 1 := Nat.lt_succ_self _
  obtain ⟨result, found, rfl⟩ := turns_sound sound ⟨0, none, []⟩ enough
  exact found

end Arms
end Inquiry.Relaxed
