import Inquiry.Proofs.Query.Chain

/-!
White space behind a piece of code changes nothing that comes of the code. Whatever is cut from the
piece is cut from it as before, or has white space behind it in its turn.
-/
namespace Inquiry

section Options

variable {α β γ δ : Type} {R : α → β → Prop} {S : γ → δ → Prop} {first : Option α} {second : Option β}

theorem rel_cases (related : Option.Rel R first second) :
    (first = none ∧ second = none) ∨ ∃ a b, first = some a ∧ second = some b ∧ R a b := by
  cases related with
  | some here => exact .inr ⟨_, _, rfl, rfl, here⟩
  | none => exact .inl ⟨rfl, rfl⟩

theorem rel_bind {f : α → Option γ} {g : β → Option δ} (related : Option.Rel R first second)
    (next : ∀ a b, R a b → Option.Rel S (f a) (g b)) : Option.Rel S (first.bind f) (second.bind g) := by
  cases related with
  | some here => exact next _ _ here
  | none => exact .none

theorem rel_map {f : α → γ} {g : β → δ} (related : Option.Rel R first second)
    (next : ∀ a b, R a b → S (f a) (g b)) : Option.Rel S (first.map f) (second.map g) := by
  cases related with
  | some here => exact .some (next _ _ here)
  | none => exact .none

theorem rel_findSome {ι : Type} {f : ι → Option α} {g : ι → Option β} (items : List ι)
    (related : ∀ item ∈ items, Option.Rel R (f item) (g item)) :
    Option.Rel R (items.findSome? f) (items.findSome? g) := by
  induction items with
  | nil => exact .none
  | cons item items ih =>
    have here := related item List.mem_cons_self
    have there := ih fun other member => related other (List.mem_cons_of_mem item member)
    rw [List.findSome?_cons, List.findSome?_cons]
    rcases rel_cases here with ⟨absent, absentToo⟩ | ⟨a, b, found, foundToo, same⟩
    · rw [absent, absentToo]
      exact there
    · rw [found, foundToo]
      exact .some same

end Options

namespace Text

/-- The second text is the first with white space behind it. -/
def Spaced (text other : List Char) : Prop := ∃ gap, IsWhite gap ∧ other = text ++ gap

variable {text other lead : List Char}

theorem IsWhite.ne {c mark : Char} (white : IsWhite text) (member : c ∈ text)
    (dark : isWhitespace mark = false) : c ≠ mark := by
  rintro rfl
  rw [white c member] at dark
  cases dark

theorem Spaced.refl (text : List Char) : Spaced text text := ⟨[], nofun, (List.append_nil text).symm⟩

theorem Spaced.cons (spaced : Spaced text other) (c : Char) : Spaced (c :: text) (c :: other) := by
  obtain ⟨gap, white, rfl⟩ := spaced
  exact ⟨gap, white, rfl⟩

theorem spaced_trimStart (spaced : Spaced text other) : Spaced (trimStart text) (trimStart other) := by
  obtain ⟨gap, white, rfl⟩ := spaced
  have empty : gap.dropWhile isWhitespace = [] := List.dropWhile_eq_nil_iff.2 white
  rw [trimStart, trimStart, List.dropWhile_append, empty]
  split
  next blank =>
    rw [List.isEmpty_iff.1 blank]
    exact Spaced.refl []
  next => exact ⟨gap, white, rfl⟩

theorem spaced_trim (spaced : Spaced text other) : trim other = trim text := by
  obtain ⟨gap, white, same⟩ := spaced_trimStart spaced
  have whiteLast : ∀ c ∈ gap.reverse, isWhitespace c = true :=
    fun c member => white c (List.mem_reverse.1 member)
  rw [trim, same, trimEnd, List.reverse_append, List.dropWhile_append_of_pos whiteLast, trim, trimEnd]

/-- What the text begins with is not made up by white space behind it. -/
theorem spaced_after (dark : ∀ c ∈ lead, isWhitespace c = false) (spaced : Spaced text other) :
    Option.Rel Spaced (after? lead text) (after? lead other) := by
  obtain ⟨gap, white, rfl⟩ := spaced
  induction lead generalizing text with
  | nil => exact .some ⟨gap, white, rfl⟩
  | cons a lead ih =>
    cases text with
    | nil =>
      cases gap with
      | nil => exact .none
      | cons c gap =>
        have other := white.ne List.mem_cons_self (dark a List.mem_cons_self)
        rw [List.nil_append, after?, after?, if_neg other.symm]
        exact .none
    | cons b text =>
      rw [List.cons_append, after?, after?]
      split
      next => exact ih fun c member => dark c (List.mem_cons_of_mem a member)
      next => exact .none

theorem spaced_span {keep : Char → Bool} (dark : ∀ c, keep c = true → isWhitespace c = false)
    (spaced : Spaced text other) : other.takeWhile keep = text.takeWhile keep ∧
      Spaced (text.dropWhile keep) (other.dropWhile keep) := by
  obtain ⟨gap, white, rfl⟩ := spaced
  have stops : ∀ c ∈ gap, keep c = false := fun c member => Bool.eq_false_iff.2 fun kept => by
    have visible := dark c kept
    rw [white c member] at visible
    cases visible
  have cut := span_append keep (text.takeWhile keep) (text.dropWhile keep ++ gap)
    (List.all_eq_true.1 List.all_takeWhile) ?_
  · rw [← List.append_assoc, List.takeWhile_append_dropWhile] at cut
    exact ⟨cut.1, gap, white, cut.2⟩
  · intro c first
    cases left : text.dropWhile keep with
    | nil =>
      rw [left, List.nil_append] at first
      exact stops c (List.mem_of_head? first)
    | cons d rest =>
      have nonempty : text.dropWhile keep ≠ [] := left ▸ List.cons_ne_nil d rest
      rw [left] at first
      cases first
      simpa [left] using List.head_dropWhile_not keep nonempty

end Text

namespace Bracket

open Inquiry.Text (Spaced)

variable {quote : Quote} {depth : Nat} {text other gap : List Char}

theorem after_white {search : Search} (ignores : ∀ c, Quiet c → search.Ignores c)
    (white : Text.IsWhite gap) :
    search.after? quote depth gap = some (gap.foldl Quote.next quote, depth) :=
  after_ignored fun c member => ignores c (white_quiet (white c member))

theorem splitClose_white (white : Text.IsWhite gap) : splitClose quote depth gap = none := by
  have stands := @after_white quote depth gap _ (fun _ => argumentSearch_quiet) white
  have quiet := @splitClose_on _ _ _ _ _ [] stands
  rwa [List.append_nil] at quiet

theorem spaced_splitClose (spaced : Spaced text other) :
    Option.Rel (fun parts others => others.1 = parts.1 ∧ Spaced parts.2 others.2)
      (splitClose quote depth text) (splitClose quote depth other) := by
  obtain ⟨gap, white, rfl⟩ := spaced
  induction text generalizing quote depth with
  | nil =>
    rw [List.nil_append, splitClose_white white]
    exact .none
  | cons c text ih =>
    rw [List.cons_append, splitClose, splitClose]
    split
    next => exact .some ⟨rfl, gap, white, rfl⟩
    next =>
      refine rel_map ih ?_
      rintro parts others ⟨same, spaced⟩
      exact ⟨by simp [same], spaced⟩

theorem spaced_pieces (spaced : Spaced text other) :
    List.Forall₂ Spaced (pieces quote depth text) (pieces quote depth other) := by
  obtain ⟨gap, white, rfl⟩ := spaced
  induction text generalizing quote depth with
  | nil =>
    rw [List.nil_append, pieces_whole (after_white (fun _ => argumentSearch_quiet) white)]
    exact .cons ⟨gap, white, rfl⟩ .nil
  | cons c text ih =>
    rw [List.cons_append, pieces, pieces]
    split
    next => exact .cons (Spaced.refl []) ih
    next =>
      have rest := @ih (quote.next c) (depthAfter quote depth c)
      generalize pieces _ _ text = parts, pieces _ _ (text ++ gap) = others at rest
      cases rest with
      | nil => exact .cons (Spaced.refl [c]) .nil
      | cons first more => exact .cons (first.cons c) more

theorem spaced_isBlank (spaced : Spaced text other) : isBlank other = isBlank text := by
  obtain ⟨gap, white, rfl⟩ := spaced
  rw [isBlank, List.all_append, List.all_eq_true.2 white, Bool.and_true]
  rfl

theorem spaced_arguments (spaced : Spaced text other) :
    List.Forall₂ Spaced (arguments text) (arguments other) :=
  List.rel_filter (fun _ _ part => by simp only [spaced_isBlank part]) (spaced_pieces spaced)

theorem groupTail_white (white : Text.IsWhite gap) : groupTail? quote depth gap = none := by
  have stands := @after_white quote depth gap _ (fun _ => groupSearch_quiet) white
  have quiet := @groupTail_on _ _ _ _ _ [] stands
  rwa [List.append_nil] at quiet

theorem spaced_groupTail (spaced : Spaced text other) :
    groupTail? quote depth other = groupTail? quote depth text := by
  obtain ⟨gap, white, rfl⟩ := spaced
  cases stands : groupSearch.after? quote depth text with
  | none =>
    obtain ⟨front, c, back, after, inner, rfl, stands, ends⟩ := after_ended stands
    rw [List.append_assoc, groupTail_on stands, groupTail_on stands, List.cons_append,
      groupTail_end ends, groupTail_end ends]
  | some place =>
    have unclosed := @groupTail_on _ _ _ _ _ [] stands
    rw [List.append_nil] at unclosed
    rw [groupTail_on stands, unclosed, groupTail_white white]
    rfl

theorem fromBracket_white {bracket : Char} (dark : Text.isWhitespace bracket = false)
    (white : Text.IsWhite gap) : fromBracket? bracket quote gap = none := by
  induction gap generalizing quote with
  | nil => rfl
  | cons c gap ih =>
    have other := white.ne List.mem_cons_self dark
    rw [fromBracket?, if_neg (by simp [other])]
    exact ih fun d member => white d (List.mem_cons_of_mem c member)

theorem spaced_fromBracket {bracket : Char} (dark : Text.isWhitespace bracket = false)
    (spaced : Spaced text other) :
    Option.Rel Spaced (fromBracket? bracket quote text) (fromBracket? bracket quote other) := by
  obtain ⟨gap, white, rfl⟩ := spaced
  induction text generalizing quote with
  | nil =>
    rw [List.nil_append, fromBracket_white dark white]
    exact .none
  | cons c text ih =>
    rw [List.cons_append, fromBracket?, fromBracket?]
    split
    next => exact .some ⟨gap, white, rfl⟩
    next => exact ih

theorem spaced_group {bracket : Char} (dark : Text.isWhitespace bracket = false)
    (spaced : Spaced text other) : group? bracket other = group? bracket text := by
  rw [group?, group?]
  rcases rel_cases (@spaced_fromBracket .outside _ _ _ dark spaced) with
    ⟨absent, absentToo⟩ | ⟨rest, restToo, found, foundToo, spaced⟩
  · rw [absent, absentToo]
  · rw [found, foundToo]
    dsimp only
    rw [spaced_groupTail spaced]

end Bracket

namespace Query

open Inquiry.Text (Spaced)
open Inquiry.Bracket

structure Call.Spaced (call other : Call) : Prop where
  method : other.method = call.method
  argument : Text.Spaced call.argument other.argument

structure Invocation.Spaced (command other : Invocation) : Prop where
  collection : other.collection = command.collection
  method : other.method = command.method
  rest : Text.Spaced command.rest other.rest

section Operations

variable {now : Int} {text other : List Char} {calls others : List Call} {call next : Call}

theorem spaced_optionalDocument (spaced : Spaced text other) :
    optionalDocument now other = optionalDocument now text := by
  rw [optionalDocument, optionalDocument, spaced_group (by decide) spaced]

theorem Call.Spaced.sortOrder (spaced : call.Spaced next) : sortOrder now next = sortOrder now call := by
  rw [Query.sortOrder, Query.sortOrder, spaced_group (by decide) spaced.argument, spaced.method]

theorem Call.Spaced.cursorNumber (spaced : call.Spaced next) : cursorNumber next = cursorNumber call := by
  rw [Query.cursorNumber, Query.cursorNumber, Text.spaced_trim spaced.argument, spaced.method]

theorem spaced_follow (cursor : Cursor) (spaced : List.Forall₂ Call.Spaced calls others) :
    Cursor.follow now cursor others = Cursor.follow now cursor calls := by
  induction spaced generalizing cursor with
  | nil => rfl
  | @cons call next calls others first rest ih =>
    rw [Cursor.follow, Cursor.follow, first.method, first.sortOrder, first.cursorNumber]
    simp only [ih]

theorem spaced_rejectCalls (spaced : List.Forall₂ Call.Spaced calls others) :
    rejectCalls others = rejectCalls calls := by
  induction spaced with
  | nil => rfl
  | @cons call next calls others first rest ih =>
    have neutral : isNeutral next = isNeutral call := by rw [isNeutral, isNeutral, first.method]
    simp only [rejectCalls, List.find?_cons, neutral] at ih ⊢
    cases isNeutral call with
    | true => exact ih
    | false => exact congrArg (fun method => Except.error (Fault.unsupportedMethod method)) first.method

theorem spaced_filter {parts others : List (List Char)} (spaced : List.Forall₂ Spaced parts others) :
    optionalDocument now (others.headD []) = optionalDocument now (parts.headD []) := by
  cases spaced with
  | nil => rfl
  | cons first rest => exact spaced_optionalDocument first

theorem spaced_projection {parts others : List (List Char)}
    (spaced : List.Forall₂ Spaced parts others) : projection? now others = projection? now parts := by
  cases spaced with
  | nil => rfl
  | cons first rest =>
    cases rest with
    | nil => rfl
    | cons second rest => rw [projection?, projection?, spaced_optionalDocument second]

theorem spaced_findOperation (spaced : Spaced text other)
    (chained : List.Forall₂ Call.Spaced calls others) :
    findOperation now other others = findOperation now text calls := by
  have parts := spaced_arguments spaced
  rw [findOperation_folded, findOperation_folded, spaced_filter parts, spaced_projection parts,
    spaced_follow _ chained]

theorem spaced_call (spaced : Spaced text other) :
    Option.Rel (fun found more => found.1.Spaced more.1 ∧ Spaced found.2 more.2) (call? text)
      (call? other) := by
  have begins {mark : Char} (dark : Text.isWhitespace mark = false) {text other : List Char}
      (spaced : Spaced text other) : Option.Rel Spaced (Text.after? [mark] (Text.trimStart text))
        (Text.after? [mark] (Text.trimStart other)) :=
    Text.spaced_after (List.forall_mem_singleton.2 dark) (Text.spaced_trimStart spaced)
  unfold call?
  refine rel_bind (begins (by decide) spaced) fun dotted dottedToo spaced => ?_
  obtain ⟨same, spaced⟩ := Text.spaced_span (fun _ => methodChar_dark) (Text.spaced_trimStart spaced)
  dsimp only
  rw [same]
  refine rel_bind (begins (by decide) spaced) fun opened openedToo spaced => ?_
  split
  next => exact .none
  next =>
    rw [closeCall?, closeCall?]
    rcases rel_cases (@spaced_splitClose .outside 0 _ _ spaced) with
      ⟨absent, absentToo⟩ | ⟨parts, others, closed, closedToo, same, spaced⟩
    · rw [absent, absentToo]
      exact .some ⟨⟨rfl, spaced⟩, Spaced.refl []⟩
    · rw [closed, closedToo]
      exact .some ⟨⟨rfl, same ▸ Spaced.refl _⟩, spaced⟩

theorem spaced_chain (spaced : Spaced text other) :
    List.Forall₂ Call.Spaced (chain text) (chain other) := by
  induction text using chain.induct generalizing other with
  | case1 text call rest found ih =>
    rcases rel_cases (spaced_call spaced) with
      ⟨absent, -⟩ | ⟨first, next, here, foundToo, same, spaced⟩
    · rw [absent] at found
      cases found
    · rw [here] at found
      cases found
      rw [chain_cons here, chain_cons foundToo]
      exact .cons same (ih spaced)
  | case2 text absent =>
    rcases rel_cases (spaced_call spaced) with ⟨-, absentToo⟩ | ⟨first, next, found, -⟩
    · rw [chain_stops absent, chain_stops absentToo]
      exact .nil
    · rw [absent] at found
      cases found

theorem spaced_callParts (spaced : Spaced text other) :
    Spaced (callParts text).1 (callParts other).1 ∧
      List.Forall₂ Call.Spaced (callParts text).2 (callParts other).2 := by
  rw [callParts, callParts, closeCall?, closeCall?]
  rcases rel_cases (@spaced_splitClose .outside 0 _ _ spaced) with
    ⟨absent, absentToo⟩ | ⟨parts, others, closed, closedToo, same, after⟩
  · rw [absent, absentToo]
    exact ⟨spaced, .nil⟩
  · rw [closed, closedToo]
    exact ⟨same ▸ Spaced.refl _, spaced_chain after⟩

theorem spaced_operation {command commandToo : Invocation} (spaced : command.Spaced commandToo) :
    operationOf now commandToo = operationOf now command := by
  obtain ⟨inside, chained⟩ := spaced_callParts spaced.rest
  rw [operationOf, operationOf, spaced.method]
  cases command.method with
  | find => exact spaced_findOperation inside chained
  | aggregate =>
    dsimp only
    rw [aggregateOperation, aggregateOperation, spaced_rejectCalls chained,
      spaced_group (by decide) inside]
  | count =>
    dsimp only
    rw [countOperation, countOperation, spaced_rejectCalls chained, spaced_optionalDocument inside]

end Operations

section Commands

variable {text other : List Char}

theorem spaced_method (spaced : Spaced text other) :
    Option.Rel (fun found more => more.1 = found.1 ∧ Spaced found.2 more.2) (method? text)
      (method? other) := by
  refine rel_findSome methods fun named member => ?_
  have dark : ∀ named ∈ methods, ∀ c ∈ named.1.toList, Text.isWhitespace c = false := by
    simp only [methods, List.forall_mem_cons]
    exact ⟨Text.all_listed (by decide), Text.all_listed (by decide), Text.all_listed (by decide),
      Text.all_listed (by decide), List.forall_mem_nil _⟩
  exact rel_map (Text.spaced_after (dark named member) spaced) fun _ _ spaced => ⟨rfl, spaced⟩

theorem spaced_commandHere (spaced : Spaced text other) :
    Option.Rel Invocation.Spaced (commandHere? text) (commandHere? other) := by
  unfold commandHere?
  refine rel_bind (Text.spaced_after (Text.all_listed (by decide)) spaced) fun _ _ spaced => ?_
  obtain ⟨same, spaced⟩ := Text.spaced_span (fun _ => Text.word_dark) spaced
  dsimp only
  rw [same]
  split
  next => exact .none
  next =>
    refine rel_bind (Text.spaced_after (Text.all_listed (by decide)) spaced) fun _ _ spaced => ?_
    refine rel_bind (spaced_method spaced) fun _ _ same => ?_
    exact .some ⟨rfl, same.1, same.2⟩

theorem command_white (white : Text.IsWhite text) : command? text = none := by
  induction text with
  | nil => rfl
  | cons c text ih =>
    rcases rel_cases (@spaced_commandHere [] _ ⟨c :: text, white, rfl⟩) with
      ⟨-, quiet⟩ | ⟨_, _, found, -⟩
    · rw [command?, ← List.nil_append (c :: text), quiet]
      exact ih fun d member => white d (List.mem_cons_of_mem c member)
    · cases found

theorem spaced_command (spaced : Spaced text other) :
    Option.Rel Invocation.Spaced (command? text) (command? other) := by
  obtain ⟨gap, white, rfl⟩ := spaced
  induction text with
  | nil =>
    rw [List.nil_append, command_white white]
    exact .none
  | cons c text ih =>
    have spaced : Spaced (c :: text) (c :: (text ++ gap)) := ⟨gap, white, rfl⟩
    rw [List.cons_append, command?, command?]
    rcases rel_cases (spaced_commandHere spaced) with
      ⟨absent, absentToo⟩ | ⟨_, _, found, foundToo, same⟩
    · rw [absent, absentToo]
      exact ih
    · rw [found, foundToo]
      exact .some same

/-- What comes of code comes of it with white space at its end as well. -/
theorem spaced_ofCode (now : Int) (spaced : Spaced text other) : ofCode now other = ofCode now text := by
  rw [ofCode, ofCode]
  rcases rel_cases (spaced_command spaced) with ⟨absent, absentToo⟩ | ⟨_, _, found, foundToo, same⟩
  · rw [absent, absentToo]
  · rw [found, foundToo]
    dsimp only
    rw [same.collection, spaced_operation same]

end Commands

end Query
end Inquiry
