import Inquiry.Proofs.Query.Chain

/-!
The four ways to count. A count chained onto `find` and a count of its own are read from one argument,
and are the same count or the same fault, whatever the argument is.
-/
namespace Inquiry.Bracket

/-- In a string or not, and how deep in brackets, after a text. -/
def place (text : List Char) : Quote × Nat :=
  text.foldl (fun (quote, depth) c => (quote.next c, depthAfter quote depth c)) (.outside, 0)

section Arguments

variable {quote after : Quote} {depth inner : Nat} {text rest : List Char} {c : Char}

theorem after_foldl (stands : argumentSearch.after? quote depth text = some (after, inner)) :
    text.foldl (fun (quote, depth) c => (quote.next c, depthAfter quote depth c)) (quote, depth) =
      (after, inner) := by
  induction text generalizing quote depth with
  | nil => exact Option.some.inj stands
  | cons c text ih => exact ih (after_goesOn stands).2

/-- Nothing ends an argument that is closed by the bracket behind it and has no comma of its own. -/
theorem passes_closed (closed : closeCall? (text ++ [')']) = some (text, []))
    (single : ∀ front back, text = front ++ ',' :: back → place front ≠ (.outside, 0)) :
    argumentSearch.after? .outside 0 text = some (.outside, 0) := by
  cases stands : argumentSearch.after? .outside 0 text with
  | none =>
    obtain ⟨front, c, back, after, inner, rfl, within, ends⟩ := after_ended stands
    simp only [argumentSearch, Bool.and_eq_true, Bool.or_eq_true, beq_iff_eq] at ends
    obtain ⟨⟨sees, closing | rfl⟩, rfl⟩ := ends
    · have early : closeCall? (front ++ c :: back ++ [')']) = some (front, back ++ [')']) := by
        rw [closeCall?, List.append_assoc, splitClose_on within, List.cons_append, splitClose]
        simp [sees, closing]
      rw [early] at closed
      simp at closed
    · obtain ⟨rfl, -⟩ := sees_outside sees
      exact absurd (after_foldl within) (single front back rfl)
  | some standing =>
    obtain ⟨after, inner⟩ := standing
    have ended : splitClose after inner [')'] = some ([], []) := by
      rw [closeCall?, splitClose_on stands] at closed
      obtain ⟨⟨inside, left⟩, found, same⟩ := Option.map_eq_some_iff.1 closed
      simp only [Prod.mk.injEq, List.append_right_eq_self] at same
      rw [found, same.1, same.2]
    rw [splitClose] at ended
    split at ended
    next ends =>
      simp only [Bool.and_eq_true, beq_iff_eq] at ends
      obtain ⟨⟨sees, -⟩, rfl⟩ := ends
      rw [(sees_outside sees).1]
    next => simp [splitClose] at ended

end Arguments

end Inquiry.Bracket

namespace Inquiry.Query

open Inquiry.Bracket

def chainedText (collection argument method : String) : String :=
  callText collection "find" argument ++ "." ++ method ++ "()"

section Counts

variable {now : Int} {argument : List Char} {method : String}

theorem chain_count (counting : method = "count" ∨ method = "countDocuments") :
    chain ('.' :: (method.toList ++ "()".toList)) = [⟨method, []⟩] := by
  have found : call? ('.' :: (method.toList ++ "()".toList)) = some (⟨method, []⟩, []) := by
    rcases counting with rfl | rfl <;> cbv
  rw [chain_cons found, chain_nil]

theorem optionalDocument_blank {text : List Char} (now : Int) (blank : isBlank text = true) :
    optionalDocument now text = .ok [] := by
  rw [optionalDocument, group_none.2 (blank_unbraced blank).1]
  rfl

/-- What is no more than one argument is looked at as a whole. -/
theorem arguments_single
    (passes : argumentSearch.after? .outside 0 argument = some (.outside, 0)) :
    optionalDocument now ((arguments argument).headD []) = optionalDocument now argument ∧
      projection? now (arguments argument) = .ok none := by
  rw [arguments, pieces_whole passes]
  cases blank : isBlank argument with
  | true =>
    rw [optionalDocument_blank now blank]
    simp [blank, optionalDocument_blank now (show isBlank [] = true from rfl), projection?]
  | false => simp [blank, projection?]

theorem findOperation_counting (counting : method = "count" ∨ method = "countDocuments")
    (passes : argumentSearch.after? .outside 0 argument = some (.outside, 0)) :
    findOperation now argument [⟨method, []⟩] =
      (do return .count (← optionalDocument now argument)) := by
  obtain ⟨whole, unprojected⟩ := @arguments_single now argument passes
  have counts : Call.counts ⟨method, []⟩ = true := by rcases counting with rfl | rfl <;> decide
  rw [findOperation_folded, whole, unprojected, follow_counts counts]
  rfl

end Counts

theorem chainedText_call (collection argument method : String) :
    chainedText collection argument method =
      callText collection "find" (argument ++ ")." ++ method ++ "(") := by
  apply String.toList_inj.1
  simp [chainedText, callText]

/-- A chained count and a count of its own are the count of what the argument stands for, or its
fault. -/
theorem ofText_counts (now : Int) {collection argument : String} (named : collection ≠ "")
    (words : ∀ c ∈ collection.toList, Text.isWordChar c = true)
    (unbroken : '\n' ∉ argument.toList)
    (closed : closeCall? (argument.toList ++ [')']) = some (argument.toList, []))
    (single : ∀ front back, argument.toList = front ++ ',' :: back → place front ≠ (.outside, 0)) :
    ∀ text ∈ [chainedText collection argument "count", chainedText collection argument "countDocuments",
        callText collection "count" argument, callText collection "countDocuments" argument],
      ofText now text = do return ⟨collection, .count (← optionalDocument now argument.toList)⟩ := by
  have passes := passes_closed closed single
  have chained {method : String} (counting : method = "count" ∨ method = "countDocuments") :
      ofText now (chainedText collection argument method) =
        do return ⟨collection, .count (← optionalDocument now argument.toList)⟩ := by
    have plain : '\n' ∉ "find".toList ++ (argument ++ ")." ++ method ++ "(").toList := by
      have noBreak : '\n' ∉ method.toList := by rcases counting with rfl | rfl <;> decide
      simpa using ⟨unbroken, noBreak⟩
    have shape : (argument ++ ")." ++ method ++ "(").toList ++ [')'] =
        argument.toList ++ ')' :: '.' :: (method.toList ++ "()".toList) := by simp
    rw [chainedText_call, ofText_line now named words (fun more => rfl) plain, shape]
    simp only [operationOf, callParts_passes passes, chain_count counting,
      findOperation_counting counting passes]
    cases optionalDocument now argument.toList <;> rfl
  have alone {method : String} (called : ∀ more, method? (method.toList ++ '(' :: more) =
      some (.count, more)) (noBreak : '\n' ∉ method.toList) :
      ofText now (callText collection method argument) =
        do return ⟨collection, .count (← optionalDocument now argument.toList)⟩ := by
    rw [ofText_line now named words called (by simpa using ⟨noBreak, unbroken⟩)]
    simp only [operationOf, callParts_passes passes, chain_nil, countOperation, rejectCalls]
    cases optionalDocument now argument.toList <;> rfl
  simp only [List.forall_mem_cons]
  exact ⟨chained (.inl rfl), chained (.inr rfl), alone (fun more => rfl) (by decide),
    alone (fun more => rfl) (by decide), List.forall_mem_nil _⟩

def tagsText : String := "\x7btags: ['x, (y', 1]\x7d"

def statusText : String := "\x7bstatus = 'x, y'\x7d"

theorem commas_within {text : List Char}
    (checked : ∀ n ∈ List.range text.length, text[n]? = some ',' → place (text.take n) ≠ (.outside, 0)) :
    ∀ front back, text = front ++ ',' :: back → place front ≠ (.outside, 0) := by
  rintro front back rfl
  have within := checked front.length (by simp) (by simp)
  rwa [List.take_left] at within

theorem ofText_counts_tags :
    ofText 0 (chainedText "orders" tagsText "count") =
      .ok ⟨"orders", .count [("tags", .list [.text "x, (y", .int 1])]⟩ ∧
    ofText 0 (chainedText "orders" statusText "countDocuments") =
      ofText 0 (callText "orders" "count" statusText) := by
  have words : ∀ c ∈ "orders".toList, Text.isWordChar c = true := Text.all_listed (by decide)
  have tags := @ofText_counts 0 "orders" tagsText (by decide) words (by decide) (by decide +kernel)
    (commas_within (by decide +kernel))
  have status := @ofText_counts 0 "orders" statusText (by decide) words (by decide)
    (by decide +kernel) (commas_within (by decide +kernel))
  simp only [List.forall_mem_cons] at tags status
  have read : optionalDocument 0 tagsText.toList =
      .ok [("tags", .list [.text "x, (y", .int 1])] := by cbv
  refine ⟨?_, status.2.1.trans status.2.2.1.symm⟩
  rw [tags.1, read]
  rfl

end Inquiry.Query
