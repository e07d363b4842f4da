import Inquiry.Proofs.Query.Strict

/-! A call on one line is read as it stands: no fence is taken from it, and its command is the first. -/
namespace Inquiry.Query

section Lines

variable {text : List Char} {first : Char}

theorem withoutFences_line (unbroken : '\n' ∉ first :: text)
    (visible : Text.isWhitespace first = false) (plain : first ≠ '`') :
    withoutFences (first :: text) = first :: text := by
  have noFence : isFence (first :: text) = false := by
    have start : Text.trimStart (first :: text) = first :: text :=
      List.dropWhile_cons_of_neg (by simp [visible])
    have other : ¬ '`' = first := fun same => plain same.symm
    rw [isFence, start]
    change (if '`' = first then _ else none : Option (List Char)).isSome = false
    rw [if_neg other]
    rfl
  rw [withoutFences, Text.lines_alone unbroken, if_neg (List.cons_ne_nil _ _)]
  simp [noFence, Text.joined]

end Lines

/-- The method of a call whose text is on one line is run on what follows its opening bracket. -/
theorem ofText_line (now : Int) {collection method argument : String} {kind : Method}
    (named : collection ≠ "") (words : ∀ c ∈ collection.toList, Text.isWordChar c = true)
    (called : ∀ more, method? (method.toList ++ '(' :: more) = some (kind, more))
    (unbroken : '\n' ∉ method.toList ++ argument.toList) :
    ofText now (callText collection method argument) = do
      return ⟨collection, ← operationOf now ⟨collection, kind, argument.toList ++ [')']⟩⟩ := by
  have noFeed : '\n' ∉ (callText collection method argument).toList := by
    rw [callText_toList]
    intro member
    have start : '\n' ∉ "db.".toList := by decide
    simp only [List.mem_append, List.mem_cons, List.not_mem_nil, or_false] at member unbroken
    rcases member with member | member | same | member | same | member | same
    · exact start member
    · exact absurd (words _ member) (by decide)
    · cases same
    · exact unbroken (.inl member)
    · cases same
    · exact unbroken (.inr member)
    · cases same
  have cleaned : withoutFences (callText collection method argument).toList =
      (callText collection method argument).toList := by
    rw [callText_toList] at noFeed ⊢
    exact withoutFences_line noFeed (by decide) (by decide)
  have nonempty : collection.toList ≠ [] := fun empty => named (String.toList_eq_nil_iff.1 empty)
  have found := commandHere_call nonempty words (called (argument.toList ++ [')']))
  rw [ofText, ofCode, cleaned, callText_toList, command_here found]
  simp only [String.ofList_toList]

end Inquiry.Query
